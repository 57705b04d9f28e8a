import ServiceCall.Proofs.Execution.Counts
import ServiceCall.Proofs.Execution.Tallies
import ServiceCall.Proofs.Skew.Steady

/-!
# The counters balance

Most counters go up by one for an entry of their own, so they count what a journal shows, and what
two of them have to do with each other is a fact about journals.  A call begins once and ends once,
and between the two it starts an attempt for its begin and one for each retry that it enters, unless
it is cancelled before the last of them.
-/

namespace ServiceCall

/-- The response that an answer is. -/
def Entry.response? : Entry → Option Http.Response
  | .answered ⟨.response r, _, _⟩ => some r
  | _ => none

/-- The reason for which the strategy denied a retry. -/
def Entry.denied? : Entry → Option Kind
  | .judged _ _ (.denied reason) => some reason
  | _ => none

def Entry.finished? : Entry → Option Summary
  | .finished s => some s
  | _ => none

/-- The kind of the failure with which a call ended. -/
def Entry.failed? : Entry → Option Kind
  | .finished s => s.kind
  | _ => none

namespace Journal

/-- The responses that were received. -/
def responses (j : Journal) : List Http.Response := j.filterMap Entry.response?

def denials (j : Journal) : List Kind := j.filterMap Entry.denied?

def ends (j : Journal) : List Summary := j.filterMap Entry.finished?

/-- The kinds of failure with which calls ended. -/
def failures (j : Journal) : List Kind := j.filterMap Entry.failed?

def begins (j : Journal) : Nat := j.count .began

/-- How often the loop went on to a retry. -/
def retrials (j : Journal) : Nat := j.count (.entered .retrying)

@[simp] theorem responses_append (i j : Journal) :
    responses (i ++ j) = responses i ++ responses j := List.filterMap_append

@[simp] theorem denials_append (i j : Journal) : denials (i ++ j) = denials i ++ denials j :=
  List.filterMap_append

@[simp] theorem ends_append (i j : Journal) : ends (i ++ j) = ends i ++ ends j :=
  List.filterMap_append

@[simp] theorem failures_append (i j : Journal) :
    failures (i ++ j) = failures i ++ failures j := List.filterMap_append

@[simp] theorem begins_append (i j : Journal) : begins (i ++ j) = begins i + begins j :=
  List.count_append

@[simp] theorem retrials_append (i j : Journal) : retrials (i ++ j) = retrials i + retrials j :=
  List.count_append

/-- Responses are answers. -/
theorem length_responses_le (j : Journal) : j.responses.length ≤ j.answers.length := by
  induction j with
  | nil => exact Nat.le_refl 0
  | cons entry rest ih =>
      rw [← List.singleton_append, responses_append, answers_append, List.length_append,
        List.length_append]
      refine Nat.add_le_add ?_ ih
      cases entry with
      | answered a =>
          obtain ⟨reply, _, _⟩ := a
          cases reply with
          | response => exact Nat.le_refl 1
          | broken => exact Nat.zero_le 1
      | _ => exact Nat.le_refl 0

end Journal

namespace Metrics

theorem record_append (m : Metrics) (enabled : Bool) (i j : Journal) :
    m.record enabled (i ++ j) = (m.record enabled i).record enabled j := by
  cases enabled with
  | false => rfl
  | true => exact List.foldl_append

/-- The counters of a client go up by what a journal shows. -/
structure Adds (m : Metrics) (j : Journal) (after : Metrics) : Prop where
  started : after.started = m.started + j.begins
  samples : after.latencySamples = m.latencySamples + j.ends.length
  failed : after.failed = m.failed + j.failures.length
  attempts : after.attempts = m.attempts + j.starts.length
  retries : after.retries = m.retries + j.retrials
  corrections : after.corrections = m.corrections + j.corrections.length
  denials : after.denials = m.denials + j.denials.length
  statuses : (after.statuses.map Prod.snd).sum =
    (m.statuses.map Prod.snd).sum + j.responses.length

/-- What one entry adds. -/
theorem adds_count (m : Metrics) (entry : Entry) : m.Adds [entry] (m.count entry) := by
  cases entry with
  | began => exact ⟨rfl, rfl, rfl, rfl, rfl, rfl, rfl, rfl⟩
  | finished s =>
      obtain ⟨_, _, kind⟩ := s
      cases kind <;> exact ⟨rfl, rfl, rfl, rfl, rfl, rfl, rfl, rfl⟩
  | answered a =>
      obtain ⟨reply, _, _⟩ := a
      cases reply with
      | response r =>
          exact ⟨rfl, rfl, rfl, rfl, rfl, rfl, rfl, sum_tally r.status.code m.statuses⟩
      | broken => exact ⟨rfl, rfl, rfl, rfl, rfl, rfl, rfl, rfl⟩
  | judged _ _ verdict =>
      cases verdict <;> exact ⟨rfl, rfl, rfl, rfl, rfl, rfl, rfl, rfl⟩
  | entered phase => cases phase <;> exact ⟨rfl, rfl, rfl, rfl, rfl, rfl, rfl, rfl⟩
  | opened | started | sent | credited | broke | corrected | granted | scheduled =>
      exact ⟨rfl, rfl, rfl, rfl, rfl, rfl, rfl, rfl⟩

theorem adds_record (m : Metrics) (j : Journal) : m.Adds j (m.record true j) := by
  rw [record, if_pos rfl]
  induction j generalizing m with
  | nil => exact ⟨rfl, rfl, rfl, rfl, rfl, rfl, rfl, rfl⟩
  | cons entry rest ih =>
      obtain ⟨hstarted, hsamples, hfailed, hattempts, hretries, hcorrections, hdenials,
        hstatuses⟩ := ih (m.count entry)
      have hone := m.adds_count entry
      rw [List.foldl_cons, ← List.singleton_append (l := rest)]
      constructor
      · rw [hstarted, hone.started, Journal.begins_append, Nat.add_assoc]
      · rw [hsamples, hone.samples, Journal.ends_append, List.length_append, Nat.add_assoc]
      · rw [hfailed, hone.failed, Journal.failures_append, List.length_append, Nat.add_assoc]
      · rw [hattempts, hone.attempts, Journal.starts_append, List.length_append, Nat.add_assoc]
      · rw [hretries, hone.retries, Journal.retrials_append, Nat.add_assoc]
      · rw [hcorrections, hone.corrections, Journal.corrections_append, List.length_append,
          Nat.add_assoc]
      · rw [hdenials, hone.denials, Journal.denials_append, List.length_append, Nat.add_assoc]
      · rw [hstatuses, hone.statuses, Journal.responses_append, List.length_append, Nat.add_assoc]

/-- An entry inside of a call leaves the number of calls in progress. -/
theorem inFlight_count (m : Metrics) {entry : Entry} (hbegan : entry ≠ .began)
    (hfinished : ∀ s, entry ≠ .finished s) : (m.count entry).inFlight = m.inFlight := by
  cases entry with
  | began => exact absurd rfl hbegan
  | finished s => exact absurd rfl (hfinished s)
  | answered a =>
      obtain ⟨reply, _, _⟩ := a
      cases reply <;> rfl
  | judged _ _ verdict => cases verdict <;> rfl
  | entered phase => cases phase <;> rfl
  | opened | started | sent | credited | broke | corrected | granted | scheduled => rfl

end Metrics

namespace Journal

theorem failures_eq (j : Journal) : j.failures = j.ends.filterMap (·.kind) := by
  rw [failures, ends, List.filterMap_filterMap]
  congr 1
  funext entry
  cases entry <;> rfl

/-- A part of a call between its begin and its end, which starts `n` attempts and goes on to `r`
retries, and in which the strategy denies `d` at most. -/
structure Part (j : Journal) (n r d : Nat) : Prop where
  begins : j.begins = 0
  ends : j.ends = []
  starts : j.starts.length = n
  answers : j.answers.length ≤ n
  corrections : j.corrections.length ≤ n
  retries : j.retrials = r
  denials : j.denials.length ≤ d

variable {i j : Journal} {n r d n' r' d' : Nat}

theorem Part.append (hi : i.Part n r d) (hj : j.Part n' r' d') :
    Part (i ++ j) (n + n') (r + r') (d + d') where
  begins := by rw [begins_append, hi.begins, hj.begins]
  ends := by rw [ends_append, hi.ends, hj.ends, List.append_nil]
  starts := by rw [starts_append, List.length_append, hi.starts, hj.starts]
  answers := by
    rw [answers_append, List.length_append]
    exact Nat.add_le_add hi.answers hj.answers
  corrections := by
    rw [corrections_append, List.length_append]
    exact Nat.add_le_add hi.corrections hj.corrections
  retries := by rw [retrials_append, hi.retries, hj.retries]
  denials := by
    rw [denials_append, List.length_append]
    exact Nat.add_le_add hi.denials hj.denials

theorem Part.mono (hj : j.Part n r d) (hle : d ≤ d') : j.Part n r d' :=
  { hj with denials := Nat.le_trans hj.denials hle }

end Journal

namespace Plan

variable {τ σ : Type} {p : Plan τ σ} {left : Nat} {context : Context} {m : Machine τ σ}
  {failure : Failure} {ran : Traced τ σ Ending}

/-- How many denials come with a ruling at most. -/
def Ruling.denials : Ruling → Nat
  | .giveUp _ => 1
  | .again .. => 0

/-- How many denials come with an end at most. -/
def Ending.denials (ending : Ending) : Nat :=
  match ending.result with
  | .ok _ => 0
  | .error _ => 1

/-- An attempt that fails is a part with one start, at most one correction and, if it is given up,
at most one denial. -/
theorem Fails.part {ruling : Ruling} {ruled : Context} {journal : Journal} {after : Machine τ σ}
    (hfails : p.Fails context m failure ⟨(ruling, ruled), journal, after⟩) :
    journal.Part 1 0 (Ruling.denials ruling) := by
  obtain ⟨_, _, attempted, _, noted, -, hattempts, hrules, rfl⟩ := hfails.parts
  have hzero : 0 ≤ 1 := Nat.zero_le 1
  have hone : 1 ≤ 1 := Nat.le_refl 1
  generalize hmade : (⟨(ruling, ruled), noted, after⟩ : Traced τ σ (Ruling × Context)) = made
    at hrules
  cases hattempts with
  | broken =>
      cases hrules with
      | terminal =>
          cases hmade
          exact ⟨rfl, rfl, rfl, hone, hzero, rfl, hzero⟩
      | granted =>
          cases hmade
          exact ⟨rfl, rfl, rfl, hone, hone, rfl, Nat.le_refl 0⟩
      | @judged correction _ _ _ _ _ hjudges =>
          cases hjudges with
          | stopped =>
              cases hmade
              cases correction with
              | none => exact ⟨rfl, rfl, rfl, hone, hzero, rfl, hzero⟩
              | some => exact ⟨rfl, rfl, rfl, hone, hone, rfl, hzero⟩
          | denied =>
              cases hmade
              cases correction with
              | none => exact ⟨rfl, rfl, rfl, hone, hzero, rfl, hone⟩
              | some => exact ⟨rfl, rfl, rfl, hone, hone, rfl, hone⟩
          | approved =>
              cases hmade
              cases correction with
              | none => exact ⟨rfl, rfl, rfl, hone, hzero, rfl, Nat.le_refl 0⟩
              | some => exact ⟨rfl, rfl, rfl, hone, hone, rfl, Nat.le_refl 0⟩

theorem Schedules.part {planned : Delay} {wait : Duration} {bonus : Bool} {following : Context}
    {scheduling : Journal} {later : Machine τ σ}
    (hschedules : p.Schedules context failure planned wait bonus m
      ⟨.ok following, scheduling, later⟩) : scheduling.Part 0 1 0 := by
  cases hschedules with
  | scheduled => exact ⟨rfl, rfl, rfl, Nat.le_refl 0, Nat.le_refl 0, rfl, Nat.le_refl 0⟩

theorem Retries.part {following : Context} {journal : Journal} {after : Machine τ σ}
    (hretries : p.Retries context m ⟨following, journal, after⟩) : journal.Part 1 1 0 := by
  obtain ⟨hfails, hschedules, hpause⟩ := hretries
  exact hfails.part.append hschedules.part

/-- A phase in which a run ends is no part of the count. -/
theorem part_failed : Journal.Part [.entered .failed] 0 0 0 :=
  ⟨rfl, rfl, rfl, Nat.le_refl 0, Nat.le_refl 0, rfl, Nat.le_refl 0⟩

/-- A last pass starts an attempt unless it is cancelled before it, and goes on to a retry only if
it is cancelled after it. -/
theorem Stops.part (hstops : p.Stops left context m ran) :
    ∃ n r, ran.journal.Part n r ran.value.denials ∧ r ≤ n ∧ n ≤ 1 := by
  have hone : 1 ≤ 1 := Nat.le_refl 1
  cases hstops with
  | cancelled =>
      refine ⟨0, 0, ?_, Nat.le_refl 0, Nat.zero_le 1⟩
      exact ⟨rfl, rfl, rfl, Nat.le_refl 0, Nat.le_refl 0, rfl, Nat.zero_le 1⟩
  | ended hopen hattempts =>
      refine ⟨1, 0, ?_, Nat.zero_le 1, hone⟩
      cases hattempts with
      | unbuilt | unsigned | overBudget | interrupted =>
          exact ⟨rfl, rfl, rfl, Nat.zero_le 1, Nat.zero_le 1, rfl, Nat.zero_le 1⟩
      | succeeded => exact ⟨rfl, rfl, rfl, hone, Nat.zero_le 1, rfl, Nat.le_refl 0⟩
  | refused hfails => exact ⟨1, 0, hfails.part.append part_failed, Nat.zero_le 1, hone⟩
  | lastAttempt _ hfails =>
      exact ⟨1, 0, (hfails.part.append part_failed).mono (Nat.zero_le 1), Nat.zero_le 1, hone⟩
  | overBudget _ hfails hschedules =>
      cases hschedules with
      | overBudget =>
          exact ⟨1, 0, (hfails.part.append part_failed).mono (Nat.zero_le 1), Nat.zero_le 1, hone⟩
  | interrupted _ hfails hschedules =>
      exact ⟨1, 1, (hfails.part.append hschedules.part).mono (Nat.zero_le 1), hone, hone⟩

/-- A run starts an attempt for each retry that it goes on to and one more, unless it is cancelled
before the last of them. -/
theorem Runs.part (hruns : p.Runs left context m ran) :
    ∃ n r, ran.journal.Part n r ran.value.denials ∧ r ≤ n ∧ n ≤ r + 1 := by
  induction hruns with
  | last hstops =>
      obtain ⟨n, r, hpart, hle, hone⟩ := hstops.part
      exact ⟨n, r, hpart, hle, Nat.le_trans hone (Nat.le_add_left 1 r)⟩
  | @again _ _ _ _ _ _ rest hretries _ ih =>
      obtain ⟨n, r, hpart, hle, hmore⟩ := ih
      have hall := hretries.part.append hpart
      rw [Nat.zero_add] at hall
      exact ⟨1 + n, 1 + r, hall, Nat.add_le_add_left hle 1, by omega⟩

end Plan

/-- What the counts of a journal have to do with each other when all calls in it ended. -/
structure Journal.Balanced (j : Journal) : Prop where
  ends : j.ends.length = j.begins
  responses : j.responses.length ≤ j.starts.length
  corrections : j.corrections.length ≤ j.starts.length
  retries : j.retrials ≤ j.starts.length
  starts : j.starts.length ≤ j.retrials + j.begins
  denials : j.denials.length ≤ j.failures.length

theorem Journal.Balanced.append {i j : Journal} (hi : i.Balanced) (hj : j.Balanced) :
    Journal.Balanced (i ++ j) := by
  constructor
  · rw [ends_append, List.length_append, begins_append, hi.ends, hj.ends]
  · rw [responses_append, starts_append, List.length_append, List.length_append]
    exact Nat.add_le_add hi.responses hj.responses
  · rw [corrections_append, starts_append, List.length_append, List.length_append]
    exact Nat.add_le_add hi.corrections hj.corrections
  · rw [retrials_append, starts_append, List.length_append]
    exact Nat.add_le_add hi.retries hj.retries
  · rw [retrials_append, begins_append, starts_append, List.length_append]
    have hsum := Nat.add_le_add hi.starts hj.starts
    omega
  · rw [denials_append, failures_append, List.length_append, List.length_append]
    exact Nat.add_le_add hi.denials hj.denials

/-- A journal of whole calls leaves no call in progress that was not before. -/
theorem Metrics.inFlight_record (m : Metrics) {j : Journal} (hbegins : j.begins = 0)
    (hends : j.ends = []) : (m.record true j).inFlight = m.inFlight := by
  rw [record, if_pos rfl]
  induction j generalizing m with
  | nil => rfl
  | cons entry rest ih =>
      rw [← List.singleton_append, Journal.begins_append] at hbegins
      rw [← List.singleton_append, Journal.ends_append] at hends
      obtain ⟨hentry, hrest⟩ := Nat.add_eq_zero_iff.1 hbegins
      obtain ⟨hopen, hothers⟩ := List.append_eq_nil_iff.1 hends
      rw [List.foldl_cons, ih _ hrest hothers]
      refine m.inFlight_count ?_ fun s => ?_
      · rintro rfl
        cases hentry
      · rintro rfl
        cases hopen

/-- A call with its begin and its end balances. -/
theorem Journal.Part.balanced {j : Journal} {n r : Nat} {s : Summary}
    (hpart : j.Part n r s.kind.toList.length) (hle : r ≤ n) (hmore : n ≤ r + 1) :
    Journal.Balanced ([.began] ++ j ++ [.finished s]) := by
  have hfailures : Journal.failures ([.began] ++ j ++ [.finished s]) = s.kind.toList := by
    rw [failures_eq, ends_append, ends_append, hpart.ends]
    cases hkind : s.kind with
    | none => exact List.filterMap_cons_none hkind
    | some kind => exact List.filterMap_cons_some hkind
  have hresponses := Nat.le_trans j.length_responses_le hpart.answers
  have hcorrections := hpart.corrections
  have hdenials := hpart.denials
  refine ⟨?_, ?_, ?_, ?_, ?_, ?_⟩ <;>
    simp only [ends_append, begins_append, responses_append, corrections_append, starts_append,
      retrials_append, denials_append, hfailures, List.length_append, hpart.begins, hpart.ends,
      hpart.starts, hpart.retries]
  · rfl
  · change 0 + j.responses.length + 0 ≤ 0 + n + 0
    omega
  · change 0 + j.corrections.length + 0 ≤ 0 + n + 0
    omega
  · change 0 + r + 0 ≤ 0 + n + 0
    omega
  · change 0 + n + 0 ≤ 0 + r + 0 + (1 + 0 + 0)
    omega
  · change 0 + j.denials.length + 0 ≤ s.kind.toList.length
    omega

namespace Execution

variable {τ σ : Type} (client : Client τ) (env : Environment σ) (call : Call) (id : InvocationId)
  (m : Machine τ σ)

/-- A call writes down a part between its begin and its end, which tells of a failure if there is
one. -/
theorem exists_part_execute :
    ∃ (j : Journal) (s : Summary) (n r : Nat),
      (execute client env call id m).journal = [.began] ++ j ++ [.finished s] ∧
        j.Part n r s.kind.toList.length ∧ r ≤ n ∧ n ≤ r + 1 := by
  have hkind (ending : Plan.Ending) :
      let result := ending.result.mapError (·.orAttempts ending.attempt)
      (summary ending.attempt result).kind.toList.length = ending.denials := by
    obtain ⟨result, attempt⟩ := ending
    cases result <;> rfl
  have hpart : ∃ n r, (attempts client env call id m).journal.Part n r
      (attempts client env call id m).value.denials ∧ r ≤ n ∧ n ≤ r + 1 := by
    rcases attempts_cases client env call id m with ⟨failure, -, hran⟩ | ⟨signer, -, hruns⟩
    · rw [hran]
      refine ⟨0, 0, ?_, Nat.le_refl 0, Nat.zero_le 1⟩
      exact ⟨rfl, rfl, rfl, Nat.le_refl 0, Nat.le_refl 0, rfl, Nat.zero_le 1⟩
    · exact hruns.part
  obtain ⟨n, r, hpart, hle, hmore⟩ := hpart
  rw [← hkind] at hpart
  exact ⟨_, _, n, r, rfl, hpart, hle, hmore⟩

theorem balanced_execute : (execute client env call id m).journal.Balanced := by
  obtain ⟨j, s, n, r, hjournal, hpart, hle, hmore⟩ := exists_part_execute client env call id m
  rw [hjournal]
  exact hpart.balanced hle hmore

/-- No call is in progress after its end that was not before its begin. -/
theorem inFlight_execute (metrics : Metrics) :
    (metrics.record true (execute client env call id m).journal).inFlight = metrics.inFlight := by
  obtain ⟨j, s, n, r, hjournal, hpart, -, -⟩ := exists_part_execute client env call id m
  have hfinish (metrics : Metrics) :
      (metrics.record true [.finished s]).inFlight = metrics.inFlight - 1 := by
    obtain ⟨_, _, kind⟩ := s
    cases kind <;> rfl
  rw [hjournal, Metrics.record_append, Metrics.record_append, hfinish,
    Metrics.inFlight_record _ hpart.begins hpart.ends]
  rfl

end Execution

/-- How the counters of a client have to do with each other while no call is in progress, when so
many responses were received. -/
structure Metrics.Balances (m : Metrics) (received : Nat) : Prop where
  inFlight : m.inFlight = 0
  started : m.started = m.succeeded + m.failed
  samples : m.latencySamples = m.started
  failures : (m.failures.map Prod.snd).sum = m.failed
  cancelled : (m.failures.lookup Kind.cancelled.code).getD 0 = m.cancellations
  statuses : (m.statuses.map Prod.snd).sum = received
  received : received ≤ m.attempts
  retries : m.retries ≤ m.attempts
  attempts : m.attempts - m.retries ≤ m.started
  denials : m.denials ≤ m.failed
  corrections : m.corrections ≤ m.attempts

variable {τ : Type} {client : Client τ} {first last : SkewState} {history : Journal}

theorem Serves.balanced (hserves : Serves client first history last) : history.Balanced := by
  induction hserves with
  | nil =>
      have hzero : 0 ≤ 0 := Nat.le_refl 0
      exact ⟨rfl, hzero, hzero, hzero, hzero, hzero⟩
  | call env call id m _ ih => exact (Execution.balanced_execute client env call id m).append ih

theorem Serves.inFlight (hserves : Serves client first history last) (m : Metrics) :
    (m.record true history).inFlight = m.inFlight := by
  induction hserves generalizing m with
  | nil => rfl
  | call env call id machine _ ih =>
      rw [Metrics.record_append, ih, Execution.inFlight_execute]

/-- The counters of a journal that balances. -/
theorem Journal.Balanced.balances {j : Journal} (hbalanced : j.Balanced)
    (hidle : (Metrics.zero.record true j).inFlight = 0) :
    (Metrics.zero.record true j).Balances j.responses.length := by
  obtain ⟨-, hfailed, hcancelled, hsamples⟩ := Metrics.tallied_zero.record true j
  have hadds := Metrics.zero.adds_record j
  generalize Metrics.zero.record true j = m at *
  obtain ⟨hstarted, hlatency, hfailures, hattempts, hretries, hcorrections, hdenials, hstatuses⟩ :=
    hadds
  obtain ⟨hends, hresponses, hcorrected, hretried, hmore, hdenied⟩ := hbalanced
  simp only [Metrics.zero, Nat.zero_add, List.map_nil, List.sum_nil] at *
  exact
    { inFlight := hidle
      started := by omega
      samples := by omega
      failures := hfailed
      cancelled := hcancelled
      statuses := hstatuses
      received := by omega
      retries := by omega
      attempts := by omega
      denials := by omega
      corrections := by omega }

/-- **The counters balance.**  After any calls made one after another on one client, with whatever
settings, services, callers and ends: no call is in progress; as many calls were started as
succeeded or failed, and as many latencies were sampled; the failures by kind add up to the calls
that failed, and those by cancellation are counted alike twice; the statuses add up to the responses
received, at most one an attempt; there are as many attempts as retries and at most one more for
each call; and no more denials than failed calls, and no more corrections than attempts.  A client
that does not count has counted nothing. -/
theorem record_serves (hserves : Serves client first history last) :
    let m := Metrics.zero.record client.metricsEnabled history
    (client.metricsEnabled = true → m.Balances history.responses.length) ∧
      (client.metricsEnabled = false → m = .zero) := by
  intro m
  refine ⟨fun henabled => ?_, fun hdisabled => ?_⟩
  · have hm : m = Metrics.zero.record true history := by rw [← henabled]
    rw [hm]
    exact hserves.balanced.balances (hserves.inFlight .zero)
  · have hm : m = Metrics.zero.record false history := by rw [← hdisabled]
    rw [hm]
    rfl

open Rehearsal in
/-- A call that is answered at its second attempt and one that is cancelled before its first. -/
theorem record_serves_plain :
    let client := { plainClient (Standard.strategy Standard.rules .standard) with
      metricsEnabled := true }
    let m := plainMachine .standard [.response busyForFive, .response plainResponse]
    let e := Execution.execute client environment plainCall .nil m
    let next := { e.machine with world := { e.machine.world with cancelled := true } }
    let e' := Execution.execute client environment plainCall .nil next
    let history := e.journal ++ e'.journal
    Serves client m.skew history e'.machine.skew ∧
      (Metrics.zero.record client.metricsEnabled history).Balances 2 ∧
      Metrics.zero.record client.metricsEnabled history =
        { Metrics.zero with
          started := 2
          succeeded := 1
          failed := 1
          attempts := 2
          retries := 1
          cancellations := 1
          latencySamples := 2
          statuses := [(200, 1), (503, 1)]
          failures := [(Kind.cancelled.code, 1)] } := by
  intro client m e next e' history
  have hserves : Serves client m.skew history e'.machine.skew := by
    have hskew : next.skew = e.machine.skew := by dsimp only [next]
    exact .pair environment plainCall .nil m environment plainCall .nil next hskew
  have hreceived : history.responses.length = 2 := by decide +kernel
  refine ⟨hserves, ?_, by decide +kernel⟩
  rw [← hreceived]
  exact (record_serves hserves).1 rfl

end ServiceCall
