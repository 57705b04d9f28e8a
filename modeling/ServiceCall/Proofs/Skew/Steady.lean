import ServiceCall.Proofs.Execution.Steering
import ServiceCall.Rehearsal.Plain

/-!
# A corrected clock stays

Once a client has learned how far the service's clock is from its own, it does not learn that again:
as long as both clocks keep their distance up to the threshold, no later failure changes the offset,
whatever the calls, the transports and the strategy do.  A measured offset is off by a millisecond
at most, and that is what the clocks have to keep below the threshold.
-/

namespace ServiceCall

variable {τ : Type} {client : Client τ}

/-- What a client writes down in calls that it makes one after another.  Only the state of the
offset is carried along; all else may be different in each call. -/
inductive Serves (client : Client τ) : SkewState → Journal → SkewState → Prop where
  | nil (state : SkewState) : Serves client state [] state
  | call {σ : Type} (env : Environment σ) (call : Call) (id : InvocationId) (m : Machine τ σ)
      {rest : Journal} {last : SkewState}
      (hrest : Serves client (Execution.execute client env call id m).machine.skew rest last) :
      Serves client m.skew ((Execution.execute client env call id m).journal ++ rest) last

/-- Two calls, of which the second finds the offset that the first left. -/
theorem Serves.pair {σ ρ : Type} (env : Environment σ) (call : Call) (id : InvocationId)
    (m : Machine τ σ) (env' : Environment ρ) (call' : Call) (id' : InvocationId) (m' : Machine τ ρ)
    (hskew : m'.skew = (Execution.execute client env call id m).machine.skew) :
    Serves client m.skew ((Execution.execute client env call id m).journal ++
      (Execution.execute client env' call' id' m').journal)
      (Execution.execute client env' call' id' m').machine.skew := by
  have hlast := Serves.call env' call' id' m'
    (.nil (Execution.execute client env' call' id' m').machine.skew)
  rw [hskew, List.append_nil] at hlast
  exact .call env call id m hlast

theorem Serves.steers {state last : SkewState} {history : Journal}
    (hserves : Serves client state history last) :
    Steers client state.offset history last.offset := by
  induction hserves with
  | nil state => exact .nil _
  | call env call id m _ ih => exact (Execution.steers_execute client env call id m).append ih

/-- The server's date in the failure that an answer stands for. -/
def Answered.date? (a : Answered) (c : Classifier) : Option Instant :=
  match a.outcome c with
  | .ok _ => none
  | .error failure => failure.serverDate?

/-- A journal shows an attempt from its start to its answer. -/
def Journal.Hears (j : Journal) (context : Context) (a : Answered) : Prop :=
  ∃ sent, Journal.hearing context sent a <:+: j

theorem Journal.hears_hearing (context : Context) (sent : Sent) (a : Answered) (rest : Journal) :
    Journal.Hears (Journal.hearing context sent a ++ rest) context a :=
  ⟨sent, (List.prefix_append _ rest).isInfix⟩

theorem Journal.Hears.mem_starts {j : Journal} {context : Context} {a : Answered}
    (hhears : j.Hears context a) : context ∈ j.starts := by
  obtain ⟨sent, front, back, rfl⟩ := hhears
  rw [starts_append, starts_append]
  exact List.mem_append_left _ (List.mem_append_right _ (List.mem_singleton_self context))

theorem Journal.Hears.mem_answers {j : Journal} {context : Context} {a : Answered}
    (hhears : j.Hears context a) : a ∈ j.answers := by
  obtain ⟨sent, front, back, rfl⟩ := hhears
  rw [answers_append, answers_append]
  exact List.mem_append_left _ (List.mem_append_right _ (List.mem_singleton_self a))

/-- What does not stand in a first part stands after it. -/
theorem exists_of_append_eq {α : Type} {x : α} {l rest before after : List α} (hx : x ∉ l)
    (heq : l ++ rest = before ++ x :: after) :
    ∃ front, before = l ++ front ∧ rest = front ++ x :: after := by
  rcases List.append_eq_append_iff.1 heq with ⟨front, hbefore, hrest⟩ | ⟨front, hl, hafter⟩
  · exact ⟨front, hbefore, hrest⟩
  · cases front with
    | nil => exact ⟨[], by simp [hl], hafter.symm⟩
    | cons y others =>
        obtain ⟨rfl, -⟩ := List.cons.inj hafter
        exact absurd (hl ▸ List.mem_append_right _ List.mem_cons_self) hx

/-- A journal ends in a failed attempt that was answered. -/
def Journal.EndsIn (j : Journal) (a : Answered) : Prop :=
  ∃ front context sent kind status retryable,
    j = front ++ Journal.hearing context sent a ++ [.broke kind status retryable]

theorem Journal.EndsIn.append {j : Journal} {a : Answered} (hends : j.EndsIn a) (front : Journal) :
    Journal.EndsIn (front ++ j) a := by
  obtain ⟨front', context, sent, kind, status, retryable, rfl⟩ := hends
  refine ⟨front ++ front', context, sent, kind, status, retryable, ?_⟩
  rw [List.append_assoc, List.append_assoc, List.append_assoc]

theorem Journal.EndsIn.mem_answers {j : Journal} {a : Answered} (hends : j.EndsIn a) :
    a ∈ j.answers := by
  obtain ⟨front, context, sent, kind, status, retryable, rfl⟩ := hends
  rw [answers_append, answers_append]
  exact List.mem_append_left _ (List.mem_append_right _ (List.mem_singleton_self a))

/-- What a history was before a correction and what it is after it. -/
structure Steers.Splits (client : Client τ) (before : Journal) (k : Correction) (after : Journal)
    (a : Answered) (date : Instant) (grants rest : Journal) (last : ClockOffset) : Prop where
  ends : before.EndsIn a
  dated : a.date? client.classifier = some date
  offset : k.offset = .between date a.receivedAt
  after : after = grants ++ rest
  grants : grants = [] ∨ ∃ n, grants = [.granted n]
  steers : Steers client k.offset rest last

theorem Steers.Splits.append {before after grants rest : Journal} {k : Correction} {a : Answered}
    {date : Instant} {last : ClockOffset}
    (hsplits : Steers.Splits client before k after a date grants rest last) (front : Journal) :
    Steers.Splits client (front ++ before) k after a date grants rest last :=
  { hsplits with ends := hsplits.ends.append front }

theorem Steers.Splits.exists_append {l j before after : Journal} {k : Correction}
    {last : ClockOffset} (hl : Entry.corrected k ∉ l)
    (heq : l ++ j = before ++ .corrected k :: after)
    (hj : ∀ {front}, j = front ++ .corrected k :: after → ∃ a date grants rest,
      Steers.Splits client front k after a date grants rest last) :
    ∃ a date grants rest, Steers.Splits client before k after a date grants rest last := by
  obtain ⟨front, rfl, hrest⟩ := exists_of_append_eq hl heq
  obtain ⟨a, date, grants, rest, hsplits⟩ := hj hrest
  exact ⟨a, date, grants, rest, hsplits.append l⟩

/-- The failure that a correction was made for stands just before it. -/
theorem Steers.split {o last : ClockOffset} {j before after : Journal} {k : Correction}
    (hsteers : Steers client o j last) (hsplit : j = before ++ .corrected k :: after) :
    ∃ a date grants rest, Steers.Splits client before k after a date grants rest last := by
  induction hsteers generalizing before with
  | nil => simp at hsplit
  | @quiet _ _ e _ hquiet _ ih =>
      have hother : Entry.corrected k ∉ [e] := by
        rintro hmem
        obtain rfl := List.mem_singleton.1 hmem
        cases hquiet
      exact Splits.exists_append hother hsplit ih
  | @unheard _ _ context _ _ _ ih =>
      have hother : Entry.corrected k ∉ [Entry.started context] := by simp
      exact Splits.exists_append hother hsplit ih
  | @heard _ _ context sent a _ _ _ _ ih =>
      have hother : Entry.corrected k ∉ Journal.hearing context sent a := by simp [Journal.hearing]
      exact Splits.exists_append hother hsplit ih
  | @corrected o last context sent a failure date delta grants rest hoffset houtcome hmeasured
      hgrants hrest ih =>
      have hother : Entry.corrected k ∉ Journal.hearing context sent a ++
          [.broke failure.kind failure.status failure.retryable] := by simp [Journal.hearing]
      have hsplit : Journal.hearing context sent a ++
          [.broke failure.kind failure.status failure.retryable] ++
          .corrected ⟨o, .between date a.receivedAt, delta⟩ :: (grants ++ rest) =
            before ++ .corrected k :: after := by simpa using hsplit
      obtain ⟨front, rfl, hfront⟩ := exists_of_append_eq hother hsplit
      cases front with
      | nil =>
          -- This is the correction itself.
          obtain ⟨hk, hafter⟩ := List.cons.inj hfront
          obtain rfl := Entry.corrected.inj hk
          refine ⟨a, date, grants, rest, ⟨[], context, sent, failure.kind, failure.status,
            failure.retryable, by simp⟩, ?_, rfl, hafter.symm, hgrants.imp id fun h => ⟨_, h⟩,
            hrest⟩
          rw [Answered.date?, houtcome]
          exact Corrector.serverDate?_of_measured? hmeasured
      | cons e front =>
          obtain ⟨rfl, hlater⟩ := List.cons.inj hfront
          have hungranted : Entry.corrected k ∉ grants := by
            rcases hgrants with rfl | rfl <;> simp
          obtain ⟨a', date', grants', rest', hsplits⟩ :=
            Splits.exists_append hungranted hlater ih
          exact ⟨a', date', grants', rest', (hsplits.append [.corrected _]).append _⟩

/-- Both clocks keep their distance in a journal: each failure that bears a date shows it, up to a
millisecond less than the threshold, by that date and the local time that was shifted to the time of
signing. -/
def Journal.Keeps (j : Journal) (client : Client τ) (distance : Int) : Prop :=
  ∀ context a date, j.Hears context a → a.date? client.classifier = some date →
    ∃ signing : Instant, context.offset.shift? signing = some a.signedAt ∧
      (date.nanos - signing.nanos - distance).natAbs + 1000000 ≤
        client.corrector.threshold.nanos

/-- A beginning of a journal is what was written down by some time. -/
theorem prefix_append_cases {α : Type} {s l rest : List α} (hs : s <+: l ++ rest) :
    (∃ t, s = l ++ t ∧ t <+: rest) ∨ s <+: l ∧ s ≠ l ++ rest := by
  by_cases hl : l <+: s
  · obtain ⟨t, rfl⟩ := hl
    exact .inl ⟨t, rfl, (List.prefix_append_right_inj l).1 hs⟩
  · have hwithin := List.prefix_or_prefix_of_prefix hs (List.prefix_append l rest)
    refine .inr ⟨hwithin.resolve_right hl, ?_⟩
    rintro rfl
    exact hl (List.prefix_append l rest)

theorem Journal.Keeps.of_append {i j : Journal} {distance : Int}
    (hkeeps : Journal.Keeps (i ++ j) client distance) : j.Keeps client distance := by
  intro context a date hhears hdate
  obtain ⟨sent, hinfix⟩ := hhears
  exact hkeeps context a date ⟨sent, hinfix.trans (List.suffix_append i j).isInfix⟩ hdate

/-- While the clocks keep the distance that was measured, attempts are signed within the threshold
of the server's date. -/
theorem Journal.Keeps.near {j : Journal} {distance : Int} {context : Context} {a : Answered}
    {date : Instant} (hkeeps : j.Keeps client distance)
    (hmeasured : (context.offset.nanos - distance).natAbs ≤ 1000000)
    (hhears : j.Hears context a) (hdate : a.date? client.classifier = some date) :
    (date.nanos - a.signedAt.nanos).natAbs ≤ client.corrector.threshold.nanos := by
  obtain ⟨signing, hshift, hclose⟩ := hkeeps context a date hhears hdate
  have hsigned := ClockOffset.nanos_of_shift? hshift
  omega

/-- A journal in which the offset stays. -/
structure Journal.Steady (j : Journal) (o : ClockOffset) : Prop where
  corrections : j.corrections = []
  granted : ∀ n, Entry.granted n ∉ j
  starts : ∀ context ∈ j.starts, context.offset = o

theorem Journal.Steady.append {i j : Journal} {o : ClockOffset} (hi : i.Steady o)
    (hj : j.Steady o) : (i ++ j).Steady o where
  corrections := by rw [corrections_append, hi.corrections, hj.corrections, List.append_nil]
  granted n hmem := (List.mem_append.1 hmem).elim (hi.granted n) (hj.granted n)
  starts context hmem := by
    rw [starts_append] at hmem
    exact (List.mem_append.1 hmem).elim (hi.starts context) (hj.starts context)

theorem Journal.Steady.of_prefix {i j : Journal} {o : ClockOffset} (hj : j.Steady o)
    (hwithin : i <+: j) : i.Steady o := by
  obtain ⟨rest, rfl⟩ := hwithin
  refine ⟨?_, fun n hmem => hj.granted n (List.mem_append_left rest hmem), ?_⟩
  · have hcorrections := hj.corrections
    rw [corrections_append] at hcorrections
    exact (List.append_eq_nil_iff.1 hcorrections).1
  · intro context hmem
    apply hj.starts
    rw [starts_append]
    exact List.mem_append_left _ hmem

theorem Journal.steady_of_isQuiet {e : Entry} (hquiet : e.isQuiet = true) (o : ClockOffset) :
    Journal.Steady [e] o := by
  cases e with
  | started | answered | corrected | granted => cases hquiet
  | _ => exact ⟨rfl, by simp, fun _ hmem => absurd hmem List.not_mem_nil⟩

theorem Journal.steady_started (context : Context) :
    Journal.Steady [.started context] context.offset := by
  refine ⟨rfl, by simp, ?_⟩
  intro other hmem
  rw [List.mem_singleton.1 hmem]

theorem Journal.steady_hearing (context : Context) (sent : Sent) (a : Answered) :
    (Journal.hearing context sent a).Steady context.offset := by
  refine ⟨rfl, by simp [Journal.hearing], ?_⟩
  intro other hmem
  rw [List.mem_singleton.1 hmem]

/-- A steady part at the front of a journal that is steady from there on. -/
theorem Journal.Steady.of_rest {l rest shown : Journal} {o last : ClockOffset}
    (hl : l.Steady o) (hshown : shown <+: l ++ rest)
    (hrest : ∀ t, t <+: rest → shown = l ++ t → Journal.Steady t o ∧ (t = rest → last = o)) :
    shown.Steady o ∧ (shown = l ++ rest → last = o) := by
  rcases prefix_append_cases hshown with ⟨t, rfl, ht⟩ | ⟨hwithin, hne⟩
  · obtain ⟨hsteady, hlast⟩ := hrest t ht rfl
    exact ⟨hl.append hsteady, fun heq => hlast (List.append_cancel_left heq)⟩
  · exact ⟨hl.of_prefix hwithin, fun heq => absurd heq hne⟩

/-- While the clocks keep the distance that the offset measures, the offset stays. -/
theorem Steers.steady {o last : ClockOffset} {j shown : Journal} {distance : Int}
    (hsteers : Steers client o j last) (hmeasured : (o.nanos - distance).natAbs ≤ 1000000)
    (hshown : shown <+: j) (hkeeps : shown.Keeps client distance) :
    shown.Steady o ∧ (shown = j → last = o) := by
  induction hsteers generalizing shown with
  | nil =>
      obtain rfl := List.prefix_nil.1 hshown
      refine ⟨⟨rfl, fun _ => List.not_mem_nil, ?_⟩, fun _ => rfl⟩
      exact fun _ hmem => absurd hmem List.not_mem_nil
  | quiet hquiet _ ih =>
      apply (Journal.steady_of_isQuiet hquiet _).of_rest hshown
      rintro t ht rfl
      exact ih hmeasured ht hkeeps.of_append
  | unheard hoffset _ ih =>
      apply (hoffset ▸ Journal.steady_started _ : Journal.Steady [.started _] _).of_rest hshown
      rintro t ht rfl
      exact ih hmeasured ht hkeeps.of_append
  | heard hoffset _ _ ih =>
      apply (hoffset ▸ Journal.steady_hearing _ _ _ :
        (Journal.hearing _ _ _).Steady _).of_rest hshown
      rintro t ht rfl
      exact ih hmeasured ht hkeeps.of_append
  | @corrected _ _ context sent a failure date delta grants rest hoffset houtcome hfar =>
      rw [List.append_assoc, List.append_assoc] at hshown ⊢
      apply (hoffset ▸ Journal.steady_hearing _ _ _ :
        (Journal.hearing _ _ _).Steady _).of_rest hshown
      rintro t ht rfl
      -- The measurement that leads to a correction is one that the clocks do not show.
      have hnear : client.corrector.measured? failure a.signedAt = none := by
        apply Corrector.measured?_eq_none
        intro found hfound
        refine hkeeps.near (hoffset ▸ hmeasured) (Journal.hears_hearing context sent a _) ?_
        rw [Answered.date?, houtcome]
        exact hfound
      cases hfar.symm.trans hnear

/-- A journal in which the offset stays, and no attempt is granted a retry for a wrong clock.  The
attempt before it may have been. -/
structure Journal.Calm (j : Journal) (o : ClockOffset) : Prop where
  corrections : j.corrections = []
  starts : ∀ context ∈ j.starts, context.offset = o
  ungranted : ∀ front context back n, j = front ++ .started context :: back →
    Entry.granted n ∉ back

theorem Journal.Steady.calm {j : Journal} {o : ClockOffset} (hsteady : j.Steady o) : j.Calm o where
  corrections := hsteady.corrections
  starts := hsteady.starts
  ungranted := by
    rintro front context back n rfl hmem
    exact hsteady.granted n (List.mem_append_right front (List.mem_cons_of_mem _ hmem))

theorem Journal.Calm.of_grants {grants j : Journal} {o : ClockOffset} (hj : j.Calm o)
    (hgrants : grants = [] ∨ ∃ n, grants = [.granted n]) : Journal.Calm (grants ++ j) o := by
  rcases hgrants with rfl | ⟨n, rfl⟩
  · exact hj
  · refine ⟨hj.corrections, hj.starts, ?_⟩
    intro front context back number heq
    obtain ⟨rest, -, hrest⟩ := exists_of_append_eq (by simp) heq
    exact hj.ungranted rest context back number hrest

/-- After a correction from a failure with the server's date, received at some local time, the
client leaves the offset alone for as long as the clocks keep the distance of these two times: in
all that it writes down by then, in this call and in later ones, there is no further correction and
no retry for a wrong clock, each attempt starts with the offset of the correction, and each failure
with a date was signed within the threshold of it. -/
theorem serves_steady {first last : SkewState} {before shown hidden : Journal} {k : Correction}
    (hserves : Serves client first (before ++ .corrected k :: (shown ++ hidden)) last) :
    ∃ a date, before.EndsIn a ∧ a.date? client.classifier = some date ∧
      k.offset = .between date a.receivedAt ∧
      let distance := date.nanos - a.receivedAt.nanos
      (-0x8000000000000000 * 1000000 ≤ distance → distance < 0x8000000000000000 * 1000000 →
        shown.Keeps client distance →
          shown.Calm k.offset ∧ (hidden = [] → last.offset = k.offset) ∧
            ∀ context later seen, shown.Hears context later →
              later.date? client.classifier = some seen →
                (seen.nanos - later.signedAt.nanos).natAbs ≤ client.corrector.threshold.nanos) := by
  obtain ⟨a, date, grants, rest, hsplits⟩ := hserves.steers.split rfl
  refine ⟨a, date, hsplits.ends, hsplits.dated, hsplits.offset, ?_⟩
  intro distance hlower hupper hkeeps
  have hmeasured : (k.offset.nanos - distance).natAbs ≤ 1000000 := by
    rw [hsplits.offset]
    exact ClockOffset.natAbs_nanos_between_sub_le hlower hupper
  have hshown : shown <+: grants ++ rest := hsplits.after ▸ List.prefix_append shown hidden
  have hcalm : shown.Calm k.offset ∧ (shown = grants ++ rest → last.offset = k.offset) := by
    rcases prefix_append_cases hshown with ⟨t, rfl, ht⟩ | ⟨hwithin, hne⟩
    · obtain ⟨hsteady, hlast⟩ := hsplits.steers.steady hmeasured ht hkeeps.of_append
      exact ⟨hsteady.calm.of_grants hsplits.grants,
        fun heq => hlast (List.append_cancel_left heq)⟩
    · refine ⟨?_, fun heq => absurd heq hne⟩
      have hshort : shown = [] ∨ ∃ n, shown = [.granted n] := by
        rcases hsplits.grants with rfl | ⟨n, rfl⟩
        · exact .inl (List.prefix_nil.1 hwithin)
        · refine (List.prefix_cons_iff.1 hwithin).imp_right ?_
          rintro ⟨t, rfl, ht⟩
          exact ⟨n, by rw [List.prefix_nil.1 ht]⟩
      have hempty : Journal.Calm [] k.offset :=
        ⟨rfl, fun _ hmem => absurd hmem List.not_mem_nil, fun _ _ _ _ heq => by simp at heq⟩
      exact List.append_nil shown ▸ hempty.of_grants hshort
  refine ⟨hcalm.1, ?_, ?_⟩
  · rintro rfl
    exact hcalm.2 (by rw [← hsplits.after, List.append_nil])
  · intro context later seen hhears hdate
    have hoffset := hcalm.1.starts context hhears.mem_starts
    exact hkeeps.near (hoffset ▸ hmeasured) hhears hdate

open Rehearsal in
/-- A service that is an hour ahead refuses two attempts of a call and one of the next.  The first
refusal corrects the clock, and the others come from attempts that are signed at its own time. -/
theorem serves_steady_plain :
    let client := plainClient (Standard.strategy Standard.rules .standard)
    let m := plainMachine .standard [.response hourAhead, .response hourAhead]
    let e := Execution.execute client environment plainCall .nil m
    let next := { e.machine with world := .replying [.response hourAhead] }
    let e' := Execution.execute client environment plainCall .nil next
    let hour : ClockOffset := ⟨3600000, by decide, by decide⟩
    let k : Correction := ⟨.zero, hour, hour⟩
    let shown : Journal := e.journal.drop 11 ++ e'.journal
    Serves client m.skew (e.journal.take 10 ++ .corrected k :: (shown ++ [])) e'.machine.skew ∧
      shown.answers.length = 2 ∧ shown.Calm hour ∧ e'.machine.skew.offset = hour := by
  intro client m e next e' hour k shown
  have hsplit : e.journal = e.journal.take 10 ++ .corrected k :: e.journal.drop 11 := by
    decide +kernel
  have hserves : Serves client m.skew (e.journal.take 10 ++ .corrected k :: (shown ++ []))
      e'.machine.skew := by
    have hskew : next.skew = e.machine.skew := by dsimp only [next]
    have htwice := Serves.pair environment plainCall .nil m environment plainCall .nil next hskew
    rw [show (Execution.execute _ _ _ _ m).journal = _ from hsplit] at htwice
    simpa [shown] using htwice
  have hanswered : ∀ a ∈ Journal.answers (e.journal.take 10), a.receivedAt.nanos = 0 ∧
      (a.date? client.classifier).map (·.nanos) = some (3600 * 1000000000) := by decide +kernel
  have hlater : ∀ a ∈ shown.answers, a.signedAt.nanos = 3600 * 1000000000 ∧
      (a.date? client.classifier).map (·.nanos) = some (3600 * 1000000000) := by decide +kernel
  have hstarts : ∀ context ∈ shown.starts, context.offset = hour := by decide +kernel
  obtain ⟨a, date, hends, hdate, -, hsteady⟩ := serves_steady hserves
  obtain ⟨hreceived, hmeasured⟩ := hanswered a hends.mem_answers
  have hhour : date.nanos = 3600 * 1000000000 := by simpa [hdate] using hmeasured
  rw [hreceived, hhour] at hsteady
  have hkeeps : shown.Keeps client (3600 * 1000000000 - 0) := by
    intro context later seen hhears hseen
    obtain ⟨hsigned, hshown⟩ := hlater later hhears.mem_answers
    have hseen : seen.nanos = 3600 * 1000000000 := by simpa [hseen] using hshown
    refine ⟨.epoch, Instant.ofNanos?_eq_some_iff.2 ?_, ?_⟩
    · rw [hstarts context hhears.mem_starts, hsigned]
      rfl
    · rw [hseen]
      decide
  obtain ⟨hcalm, hlast, -⟩ := hsteady (by decide) (by decide) hkeeps
  have htwo : shown.answers.length = 2 := by decide +kernel
  exact ⟨hserves, htwo, hcalm, hlast rfl⟩

end ServiceCall
