import ServiceCall.Proofs.Execution.Steering
import ServiceCall.Proofs.Skew.Compensation
import ServiceCall.Rehearsal.Plain
import Mathlib.Data.List.Forall2

/-!
# A wrong clock is made up for

Two clients that differ in their clock and, by as much, in their offset do the same: they send the
same requests, wait for the same times and end alike, and each step of the one is a step of the
other.  This holds of every call in which no service asks for a wait until a date, for such a wait
is counted by the clock itself.
-/

namespace ServiceCall

variable {τ σ : Type}

/-- The same environment with another clock. -/
def Environment.withClock (env : Environment σ) (now : σ → Instant × σ) : Environment σ :=
  { env with now }

/-- A clock whose readings are some milliseconds ahead of those of an environment. -/
structure Environment.Ahead (env : Environment σ) (millis : Int) (now : σ → Instant × σ) :
    Prop where
  reading : ∀ w, (env.now w).1.Ahead millis (now w).1
  world : ∀ w, (now w).2 = (env.now w).2

theorem Environment.Ahead.read {env : Environment σ} {millis : Int} {now : σ → Instant × σ}
    (hclock : env.Ahead millis now) {w after : σ} {t : Instant} (hnow : env.now w = (t, after)) :
    ∃ t', (env.withClock now).now w = (t', after) ∧ t.Ahead millis t' := by
  have hreading := hclock.reading w
  have hworld := hclock.world w
  rw [hnow] at hreading hworld
  exact ⟨(now w).1, Prod.ext rfl hworld, hreading⟩

/-- Contexts that differ in their offset only. -/
def Context.Alike (c c' : Context) : Prop := ∃ o, c' = c.withOffset o

/-- Contexts that differ in their offset only, and there by some milliseconds. -/
structure Context.Behind (millis : Int) (c c' : Context) : Prop where
  alike : c.Alike c'
  offset : c.offset.Behind millis c'.offset

/-- Machines that differ in their offset only, and there by some milliseconds. -/
structure Machine.Behind (millis : Int) (m m' : Machine τ σ) : Prop where
  alike : ∃ skew, m' = { m with skew }
  offset : m.skew.offset.Behind millis m'.skew.offset

theorem Machine.Behind.withWorld {millis : Int} {m m' : Machine τ σ} (hm : m.Behind millis m')
    (world : σ) : Machine.Behind millis { m with world } { m' with world } := by
  obtain ⟨⟨skew, rfl⟩, hskew⟩ := hm
  exact ⟨⟨skew, rfl⟩, hskew⟩

/-- An attempt takes over the offset of the machine. -/
theorem Context.Alike.withOffset {millis : Int} {c c' : Context} {m m' : Machine τ σ}
    (halike : c.Alike c') (hm : m.Behind millis m') :
    (c.withOffset m.skew.offset).Behind millis (c'.withOffset m'.skew.offset) := by
  obtain ⟨o, rfl⟩ := halike
  exact ⟨⟨_, rfl⟩, hm.offset⟩

/-- Entries that differ in what depends on the clock only. -/
inductive Entry.Behind (millis : Int) : Entry → Entry → Prop where
  | started {c c' : Context} (hbehind : c.Behind millis c') :
      Behind millis (.started c) (.started c')
  | answered {reply : Reply} {signedAt receivedAt receivedAt' : Instant}
      (hahead : receivedAt.Ahead millis receivedAt') :
      Behind millis (.answered ⟨reply, signedAt, receivedAt⟩)
        (.answered ⟨reply, signedAt, receivedAt'⟩)
  | corrected {k k' : Correction} (hbehind : k.Behind millis k') :
      Behind millis (.corrected k) (.corrected k')
  | granted (attempt : Nat) : Behind millis (.granted attempt) (.granted attempt)
  | quiet {e : Entry} (hquiet : e.isQuiet = true) : Behind millis e e

/-- Journals whose entries differ in what depends on the clock only. -/
abbrev Journal.Behind (millis : Int) (j j' : Journal) : Prop :=
  List.Forall₂ (Entry.Behind millis) j j'

/-- No answer asks for a wait until a date. -/
def Journal.Timeless (c : Classifier) (j : Journal) : Prop :=
  ∀ a ∈ j.answers, a.reply.datesRetry c = false

namespace Journal

variable {millis : Int} {i i' j j' : Journal}

theorem timeless_append {c : Classifier} :
    Timeless c (i ++ j) ↔ Timeless c i ∧ Timeless c j := by
  simp only [Timeless, answers_append, List.forall_mem_append]

theorem Behind.append (hi : i.Behind millis i') (hj : j.Behind millis j') :
    Journal.Behind millis (i ++ j) (i' ++ j') := List.rel_append hi hj

theorem behind_of_quiet (hj : ∀ e ∈ j, e.isQuiet = true) : j.Behind millis j := by
  rw [Behind, List.forall₂_same]
  exact fun e he => .quiet (hj e he)

/-- A view that shows nothing of the clock shows the same of both journals. -/
theorem Behind.filterMap_eq {α : Type} {view : Entry → Option α}
    (hview : ∀ e e', e.Behind millis e' → view e = view e') (hj : j.Behind millis j') :
    j'.filterMap view = j.filterMap view := by
  induction hj with
  | nil => rfl
  | cons hentry _ ih => rw [List.filterMap_cons, List.filterMap_cons, hview _ _ hentry, ih]

theorem Behind.sends_eq (hj : j.Behind millis j') : j'.sends = j.sends := by
  refine hj.filterMap_eq fun e e' hentry => ?_
  cases hentry with
  | _ => rfl

theorem Behind.retries_eq (hj : j.Behind millis j') : j'.retries = j.retries := by
  refine hj.filterMap_eq fun e e' hentry => ?_
  cases hentry with
  | _ => rfl

theorem behind_corrected {k k' : Option Correction}
    (hcorrection : Option.Rel (Correction.Behind millis) k k') :
    Journal.Behind millis (k.toList.map .corrected) (k'.toList.map .corrected) := by
  cases hcorrection with
  | some hbehind => exact .cons (.corrected hbehind) .nil
  | none => exact .nil

theorem behind_started {context context' : Context} (hcontext : context.Behind millis context')
    {rest : Journal} (hrest : ∀ e ∈ rest, e.isQuiet = true) :
    Journal.Behind millis (.started context :: rest) (.started context' :: rest) :=
  .cons (.started hcontext) (behind_of_quiet hrest)

/-- Attempts that are answered alike differ in their start and in the time of their answer only. -/
theorem behind_hearing {context context' : Context} (hcontext : context.Behind millis context')
    (sent : Sent) {reply : Reply} {signedAt t t' : Instant} (hahead : t.Ahead millis t')
    {rest : Journal} (hrest : ∀ e ∈ rest, e.isQuiet = true) :
    Journal.Behind millis (hearing context sent ⟨reply, signedAt, t⟩ ++ rest)
      (hearing context' sent ⟨reply, signedAt, t'⟩ ++ rest) := by
  have hmiddle : ∀ e ∈ [Entry.entered .building, .entered .signing, .entered .sending, .sent sent,
      .entered .interpreting], e.isQuiet = true := by simp [Entry.isQuiet]
  exact .cons (.started hcontext) ((behind_of_quiet hmiddle).append
    (.cons (.answered hahead) (behind_of_quiet hrest)))

end Journal

/-- What an attempt came to, by either clock. -/
inductive Trial.Behind (millis : Int) : Trial → Trial → Prop where
  | ended (result : Except Failure Http.Response) : Behind millis (.ended result) (.ended result)
  | broken (failure : Failure) (signedAt : Instant) {t t' : Instant}
      (hahead : t.Ahead millis t') :
      Behind millis (.broken failure signedAt t) (.broken failure signedAt t')

/-- What a failure was ruled to come to, by either clock. -/
inductive Ruled.Alike : Ruling × Context → Ruling × Context → Prop where
  | intro (ruling : Ruling) {c c' : Context} (halike : c.Alike c') : Alike (ruling, c) (ruling, c')

/-- What scheduling came to, by either clock. -/
inductive Following.Alike : Except Failure Context → Except Failure Context → Prop where
  | refused (failure : Failure) : Alike (.error failure) (.error failure)
  | scheduled {c c' : Context} (halike : c.Alike c') : Alike (.ok c) (.ok c')

/-- Steps that came to related values, by either clock. -/
structure Traced.Behind {α : Type} (millis : Int) (related : α → α → Prop)
    (x x' : Traced τ σ α) : Prop where
  value : related x.value x'.value
  journal : x.journal.Behind millis x'.journal
  machine : x.machine.Behind millis x'.machine

namespace Plan

/-- The same plan in an environment with another clock. -/
def withClock (p : Plan τ σ) (now : σ → Instant × σ) : Plan τ σ :=
  { p with env := p.env.withClock now }

variable {p : Plan τ σ} {millis : Int} {now : σ → Instant × σ} {left : Nat}
  {context context' : Context} {m m' : Machine τ σ} {failure : Failure}

theorem Sends.behind (hclock : p.env.Ahead millis now) (hcontext : context.Behind millis context')
    (hm : m.Behind millis m') {sent : Sent} {signedAt : Instant} {world : σ}
    (hsends : p.Sends context m sent signedAt world) :
    (p.withClock now).Sends context' m' sent signedAt world := by
  obtain ⟨⟨o, rfl⟩, hoffset⟩ := hcontext
  obtain ⟨⟨skew, rfl⟩, -⟩ := hm
  obtain ⟨hbuilt, hnow, hsigned, helapsed, hlimit⟩ := hsends
  obtain ⟨t', hnow', hahead⟩ := hclock.read hnow
  rw [← hoffset.apply_eq hahead] at hsigned ⊢
  exact .intro hbuilt hnow' hsigned helapsed hlimit

/-- An answer that asks for no date means the same at either time of receipt. -/
theorem Hears.behind (hclock : p.env.Ahead millis now) (hcontext : context.Behind millis context')
    (hm : m.Behind millis m') {sent : Sent} {a : Answered} {world : σ}
    (hhears : p.Hears context m sent a world)
    (hdates : a.reply.datesRetry p.client.classifier = false) :
    ∃ t', a.receivedAt.Ahead millis t' ∧
      (p.withClock now).Hears context' m' sent ⟨a.reply, a.signedAt, t'⟩ world ∧
      (⟨a.reply, a.signedAt, t'⟩ : Answered).outcome p.client.classifier =
        a.outcome p.client.classifier := by
  have hsame := Reply.outcome_eq hdates
  obtain ⟨hsends, hopen, hreply, hnow⟩ := hhears
  obtain ⟨t', hnow', hahead⟩ := hclock.read hnow
  exact ⟨t', hahead, .intro (hsends.behind hclock hcontext hm) hopen hreply hnow', hsame _ t'⟩

/-- An attempt goes the same way by either clock. -/
theorem Attempts.behind (hclock : p.env.Ahead millis now)
    (hcontext : context.Behind millis context') (hm : m.Behind millis m')
    {trial : Traced τ σ Trial} (hattempts : p.Attempts context m trial)
    (htimeless : trial.journal.Timeless p.client.classifier) :
    ∃ trial', (p.withClock now).Attempts context' m' trial' ∧
      trial.Behind millis (Trial.Behind millis) trial' := by
  have hbehind := hcontext
  have hmachine := hm
  obtain ⟨⟨o, rfl⟩, hoffset⟩ := hcontext
  obtain ⟨⟨skew, rfl⟩, hskew⟩ := hm
  cases hattempts with
  | unbuilt hbuilt =>
      exact ⟨_, .unbuilt hbuilt, .ended _,
        Journal.behind_started hbehind (by simp [Entry.isQuiet]), ⟨_, rfl⟩, hskew⟩
  | unsigned hbuilt hnow hsigned =>
      obtain ⟨t', hnow', hahead⟩ := hclock.read hnow
      rw [← hoffset.apply_eq hahead] at hsigned
      exact ⟨_, .unsigned hbuilt hnow' hsigned, .ended _,
        Journal.behind_started hbehind (by simp [Entry.isQuiet]), ⟨_, rfl⟩, hskew⟩
  | overBudget hbuilt hnow hsigned helapsed hlimit =>
      obtain ⟨t', hnow', hahead⟩ := hclock.read hnow
      rw [← hoffset.apply_eq hahead] at hsigned
      exact ⟨_, .overBudget hbuilt hnow' hsigned helapsed hlimit, .ended _,
        Journal.behind_started hbehind (by simp [Entry.isQuiet]), ⟨_, rfl⟩, hskew⟩
  | interrupted hsends hcancelled =>
      exact ⟨_, .interrupted (hsends.behind hclock hbehind hmachine) hcancelled, .ended _,
        Journal.behind_started hbehind (by simp [Entry.isQuiet]), ⟨_, rfl⟩, hskew⟩
  | @succeeded sent a _ _ hhears houtcome =>
      have hdates := htimeless a (List.mem_cons_self ..)
      obtain ⟨t', hahead, hhears', hsame⟩ := hhears.behind hclock hbehind hmachine hdates
      exact ⟨_, .succeeded hhears' (hsame.trans houtcome), .ended _,
        Journal.behind_hearing hbehind sent hahead (by simp [Entry.isQuiet]), ⟨_, rfl⟩, hskew⟩
  | @broken sent a _ _ hhears houtcome =>
      have hdates := htimeless a (List.mem_cons_self ..)
      obtain ⟨t', hahead, hhears', hsame⟩ := hhears.behind hclock hbehind hmachine hdates
      exact ⟨_, .broken hhears' (hsame.trans houtcome), .broken _ _ hahead,
        Journal.behind_hearing hbehind sent hahead (by simp [Entry.isQuiet]), ⟨_, rfl⟩, hskew⟩

variable (now) in
theorem Judges.behind (halike : context.Alike context') (hm : m.Behind millis m')
    {ruled : Traced τ σ (Ruling × Context)} (hjudges : p.Judges context failure m ruled) :
    ∃ ruled', (p.withClock now).Judges context' failure m' ruled' ∧
      ruled.Behind millis Ruled.Alike ruled' := by
  obtain ⟨o, rfl⟩ := halike
  obtain ⟨⟨skew, rfl⟩, hskew⟩ := hm
  have hquiet : ruled.journal.Behind millis ruled.journal :=
    Journal.behind_of_quiet hjudges.quiet.1
  cases hjudges with
  | stopped hjudge =>
      exact ⟨_, .stopped hjudge, .intro _ ⟨o, rfl⟩, hquiet, ⟨_, rfl⟩, hskew⟩
  | denied hjudge =>
      exact ⟨_, .denied hjudge, .intro _ ⟨o, rfl⟩, hquiet, ⟨_, rfl⟩, hskew⟩
  | approved hjudge hdelay hdrawn =>
      exact ⟨_, .approved hjudge hdelay hdrawn, .intro _ ⟨o, rfl⟩, hquiet, ⟨_, rfl⟩, hskew⟩

variable (now) in
/-- A failure that was signed at the same time is ruled alike. -/
theorem Rules.behind (halike : context.Alike context') (hm : m.Behind millis m')
    {signedAt t t' : Instant} (hahead : t.Ahead millis t')
    {ruled : Traced τ σ (Ruling × Context)}
    (hrules : p.Rules context failure signedAt t m ruled) :
    ∃ ruled', (p.withClock now).Rules context' failure signedAt t' m' ruled' ∧
      ruled.Behind millis Ruled.Alike ruled' := by
  have hsame := halike
  obtain ⟨o, rfl⟩ := halike
  obtain ⟨⟨skew, rfl⟩, hskew⟩ := hm
  cases hrules with
  | terminal hterminal =>
      exact ⟨_, .terminal hterminal, .intro _ hsame, .nil, ⟨_, rfl⟩, hskew⟩
  | granted hterminal hobserve hunused =>
      obtain ⟨_, learnt, hobserve', hsome, hlearnt⟩ :=
        Corrector.observe_behind hskew hahead hobserve
      obtain ⟨hcorrection⟩ := hsome
      exact ⟨_, .granted hterminal hobserve' hunused, .intro _ ⟨o, rfl⟩,
        .cons (.corrected hcorrection) (.cons (.granted _) .nil), ⟨_, rfl⟩, hlearnt⟩
  | @judged _ found _ hterminal hobserve hplain hjudges =>
      obtain ⟨correction', learnt, hobserve', hcorrection, hlearnt⟩ :=
        Corrector.observe_behind hskew hahead hobserve
      have hmachine : Machine.Behind millis { m with skew := found } { m with skew := learnt } :=
        ⟨⟨learnt, rfl⟩, hlearnt⟩
      obtain ⟨ruled', hjudges', hbehind⟩ := hjudges.behind now hsame hmachine
      have hplain' : (correction'.isSome && !context.bonusUsed) = false := by
        rw [← hplain]
        cases hcorrection with
        | _ => rfl
      exact ⟨_, .judged hterminal hobserve' hplain' hjudges', hbehind.value,
        (Journal.behind_corrected hcorrection).append hbehind.journal, hbehind.machine⟩

/-- The deadline is counted from the same time. -/
theorem reference_behind (hclock : p.env.Ahead millis now) (hm : m.Behind millis m')
    {reference : Instant} {after : σ}
    (hreference : p.reference failure m = (reference, { m with world := after })) :
    (p.withClock now).reference failure m' = (reference, { m' with world := after }) := by
  obtain ⟨⟨skew, rfl⟩, hskew⟩ := hm
  rw [Plan.reference] at hreference ⊢
  cases hdate : failure.serverDate? with
  | some date =>
      rw [hdate] at hreference
      obtain ⟨rfl, hmachine⟩ := Prod.mk.inj hreference
      cases congrArg Machine.world hmachine
      rfl
  | none =>
      rcases hnow : p.env.now m.world with ⟨t, read⟩
      obtain ⟨t', hnow', hahead⟩ := hclock.read hnow
      have hread : (p.withClock now).env.now m.world = (t', read) := hnow'
      simp only [hdate, hnow] at hreference
      simp only [hread, hskew.apply_eq hahead]
      cases hreference
      rfl

theorem Schedules.behind (hclock : p.env.Ahead millis now) (halike : context.Alike context')
    (hm : m.Behind millis m') {planned : Delay} {wait : Duration} {bonus : Bool}
    {scheduled : Traced τ σ (Except Failure Context)}
    (hschedules : p.Schedules context failure planned wait bonus m scheduled) :
    ∃ scheduled', (p.withClock now).Schedules context' failure planned wait bonus m' scheduled' ∧
      scheduled.Behind millis Following.Alike scheduled' := by
  have hmachine := hm
  have hquiet : scheduled.journal.Behind millis scheduled.journal :=
    Journal.behind_of_quiet hschedules.quiet.1
  obtain ⟨o, rfl⟩ := halike
  obtain ⟨⟨skew, rfl⟩, hskew⟩ := hm
  cases hschedules with
  | overBudget helapsed hwait =>
      exact ⟨_, .overBudget helapsed hwait, .refused _, hquiet, ⟨_, rfl⟩, hskew⟩
  | @scheduled _ world _ _ helapsed hwait hreference =>
      have hreference' := reference_behind hclock (hmachine.withWorld world) hreference
      exact ⟨_, .scheduled helapsed hwait hreference',
        .scheduled ⟨o, rfl⟩, hquiet, ⟨_, rfl⟩, hskew⟩

variable (now) in
theorem cancelled_withClock (hm : m.Behind millis m') :
    (p.withClock now).env.cancelled m'.world = p.env.cancelled m.world := by
  obtain ⟨⟨skew, rfl⟩, -⟩ := hm
  rfl

variable (now) in
/-- A wait goes by the world alone. -/
theorem pause_behind (hm : m.Behind millis m') {wait : Duration} {ended : Bool} {world : σ}
    (hpause : p.pause wait m = (ended, { m with world })) :
    (p.withClock now).pause wait m' = (ended, { m' with world }) := by
  obtain ⟨⟨skew, rfl⟩, -⟩ := hm
  have hsame : (p.withClock now).pause wait { m with skew } =
      ((p.pause wait m).1, { m with world := (p.pause wait m).2.world, skew }) := by
    rw [pause, pause]
    by_cases hzero : wait = .zero
    · rw [if_pos hzero, if_pos hzero]
    · rw [if_neg hzero, if_neg hzero]
      simp only [withClock, Environment.withClock]
      cases p.env.interruptsSleep wait m.world with
      | _ => rfl
  rw [hsame, hpause]

/-- The same failure, ruled alike. -/
theorem Fails.behind (hclock : p.env.Ahead millis now) (halike : context.Alike context')
    (hm : m.Behind millis m') {ruling : Ruling} {ruled : Context} {journal : Journal}
    {after : Machine τ σ} (hfails : p.Fails context m failure ⟨(ruling, ruled), journal, after⟩)
    (htimeless : journal.Timeless p.client.classifier) :
    ∃ ruled' journal' after',
      (p.withClock now).Fails context' m' failure ⟨(ruling, ruled'), journal', after'⟩ ∧
      ruled.Alike ruled' ∧ journal.Behind millis journal' ∧ after.Behind millis after' := by
  obtain ⟨signedAt, receivedAt, attempted, answered, noted, hopen, hattempts, hrules, rfl⟩ :=
    hfails.parts
  obtain ⟨trial', hattempts', hvalue, hjournal, hmachine⟩ :=
    hattempts.behind hclock (halike.withOffset hm) hm (Journal.timeless_append.1 htimeless).1
  obtain ⟨_, attempted', answered'⟩ := trial'
  obtain _ | ⟨_, _, hahead⟩ := hvalue
  obtain ⟨made', hrules', hvalue, hnoted, hafter⟩ :=
    hrules.behind now (halike.withOffset hm).alike hmachine hahead
  obtain ⟨_, noted', after'⟩ := made'
  obtain ⟨_, hruled⟩ := hvalue
  rw [← cancelled_withClock now hm] at hopen
  obtain ⟨o, rfl⟩ := halike
  exact ⟨_, _, _, .intro hopen hattempts' hrules', hruled,
    .cons (.quiet rfl) (hjournal.append hnoted), hafter⟩

/-- The next attempt begins alike. -/
theorem Retries.behind (hclock : p.env.Ahead millis now) (halike : context.Alike context')
    (hm : m.Behind millis m') {retried : Traced τ σ Context}
    (hretries : p.Retries context m retried)
    (htimeless : retried.journal.Timeless p.client.classifier) :
    ∃ retried', (p.withClock now).Retries context' m' retried' ∧
      retried.Behind millis Context.Alike retried' := by
  obtain ⟨hfails, hschedules, hpause⟩ := hretries
  obtain ⟨ruled', journal', after', hfails', hruled, hjournal, hmachine⟩ :=
    hfails.behind hclock halike hm (Journal.timeless_append.1 htimeless).1
  obtain ⟨scheduled', hschedules', hscheduled⟩ := hschedules.behind hclock hruled hmachine
  obtain ⟨_, scheduling', later'⟩ := scheduled'
  obtain ⟨_ | hfollowing, hscheduling, hlater⟩ := hscheduled
  exact ⟨_, .intro hfails' hschedules' (pause_behind now hlater hpause), hfollowing,
    hjournal.append hscheduling, hlater.withWorld _⟩

theorem behind_giveUp (halike : context.Alike context') (hm : m.Behind millis m')
    {j j' : Journal} (hj : j.Behind millis j') (failure : Failure) :
    (giveUp context failure j m).Behind millis Eq (giveUp context' failure j' m') := by
  obtain ⟨o, rfl⟩ := halike
  exact ⟨rfl, hj.append (.cons (.quiet rfl) .nil), hm⟩

/-- The run ends alike. -/
theorem Stops.behind (hclock : p.env.Ahead millis now) (halike : context.Alike context')
    (hm : m.Behind millis m') {ran : Traced τ σ Ending} (hstops : p.Stops left context m ran)
    (htimeless : ran.journal.Timeless p.client.classifier) :
    ∃ ran', (p.withClock now).Stops left context' m' ran' ∧ ran.Behind millis Eq ran' := by
  cases hstops with
  | cancelled hcancelled =>
      rw [← cancelled_withClock now hm] at hcancelled
      have hopened : Journal.Behind millis [.opened context.info.attempt context.info.limit]
          [.opened context.info.attempt context.info.limit] := .cons (.quiet rfl) .nil
      have hbehind := behind_giveUp halike hm hopened
        (Failure.cancelled.withAttempts (context.info.attempt - 1))
      obtain ⟨o, rfl⟩ := halike
      exact ⟨_, .cancelled hcancelled, hbehind⟩
  | ended hopen hattempts =>
      obtain ⟨trial', hattempts', hvalue, hjournal, hmachine⟩ :=
        hattempts.behind hclock (halike.withOffset hm) hm htimeless
      obtain ⟨_, journal', after'⟩ := trial'
      cases hvalue
      rw [← cancelled_withClock now hm] at hopen
      obtain ⟨o, rfl⟩ := halike
      exact ⟨_, .ended hopen hattempts', rfl, .cons (.quiet rfl) hjournal, hmachine⟩
  | refused hfails =>
      obtain ⟨ruled', journal', after', hfails', hruled, hjournal, hmachine⟩ :=
        hfails.behind hclock halike hm (Journal.timeless_append.1 htimeless).1
      exact ⟨_, .refused hfails', behind_giveUp hruled hmachine hjournal _⟩
  | lastAttempt hleft hfails =>
      obtain ⟨ruled', journal', after', hfails', hruled, hjournal, hmachine⟩ :=
        hfails.behind hclock halike hm (Journal.timeless_append.1 htimeless).1
      exact ⟨_, .lastAttempt hleft hfails', behind_giveUp hruled hmachine hjournal _⟩
  | overBudget hleft hfails hschedules =>
      obtain ⟨ruled', journal', after', hfails', hruled, hjournal, hmachine⟩ :=
        hfails.behind hclock halike hm (Journal.timeless_append.1 htimeless).1
      obtain ⟨scheduled', hschedules', hscheduled⟩ := hschedules.behind hclock hruled hmachine
      obtain ⟨_, scheduling', later'⟩ := scheduled'
      obtain ⟨⟨_⟩, hscheduling, hlater⟩ := hscheduled
      obtain ⟨o, rfl⟩ := hruled
      exact ⟨_, .overBudget hleft hfails' hschedules', rfl, hjournal.append hscheduling, hlater⟩
  | interrupted hleft hfails hschedules hpause =>
      obtain ⟨ruled', journal', after', hfails', hruled, hjournal, hmachine⟩ :=
        hfails.behind hclock halike hm (Journal.timeless_append.1 htimeless).1
      obtain ⟨scheduled', hschedules', hscheduled⟩ := hschedules.behind hclock hruled hmachine
      obtain ⟨_, scheduling', later'⟩ := scheduled'
      obtain ⟨_ | hfollowing, hscheduling, hlater⟩ := hscheduled
      obtain ⟨o, rfl⟩ := hruled
      obtain ⟨o', rfl⟩ := hfollowing
      exact ⟨_, .interrupted hleft hfails' hschedules' (pause_behind now hlater hpause), rfl,
        hjournal.append hscheduling, hlater.withWorld _⟩

/-- Each step of the one run is a step of the other. -/
theorem Runs.behind (hclock : p.env.Ahead millis now) (halike : context.Alike context')
    (hm : m.Behind millis m') {ran : Traced τ σ Ending} (hruns : p.Runs left context m ran)
    (htimeless : ran.journal.Timeless p.client.classifier) :
    ∃ ran', (p.withClock now).Runs left context' m' ran' ∧ ran.Behind millis Eq ran' := by
  induction hruns generalizing context' m' with
  | last hstops =>
      obtain ⟨ran', hstops', hbehind⟩ := hstops.behind hclock halike hm htimeless
      exact ⟨ran', .last hstops', hbehind⟩
  | again hretries hrest ih =>
      obtain ⟨hfirst, hlater⟩ := Journal.timeless_append.1 htimeless
      obtain ⟨retried', hretries', hretried⟩ := hretries.behind hclock halike hm hfirst
      obtain ⟨following', journal', after'⟩ := retried'
      obtain ⟨hfollowing, hjournal, hmachine⟩ := hretried
      obtain ⟨rest', hrest', hbehind⟩ := ih hfollowing hmachine hlater
      exact ⟨_, .again hretries' hrest', hbehind.value, hjournal.append hbehind.journal,
        hbehind.machine⟩

end Plan

namespace Execution

open Plan

variable {env : Environment σ} {millis : Int} {now : σ → Instant × σ} {m m' : Machine τ σ}

theorem attempts_behind (client : Client τ) (call : Call) (id : InvocationId)
    (hclock : env.Ahead millis now) (hm : m.Behind millis m')
    (htimeless : (attempts client env call id m).journal.Timeless client.classifier) :
    (attempts client env call id m).Behind millis Eq
      (attempts client (env.withClock now) call id m') := by
  have hstrategy : m'.strategy = m.strategy := by
    obtain ⟨⟨skew, rfl⟩, -⟩ := hm
    rfl
  cases hsigner : client.signers.resolve call.signer with
  | error failure =>
      simp only [attempts, hsigner, hstrategy]
      exact ⟨rfl, .nil, hm⟩
  | ok signer =>
      simp only [attempts, hsigner, hstrategy] at htimeless ⊢
      obtain ⟨ran', hruns', hbehind⟩ :=
        (runs_run (plan client env call signer) _ _ m).behind hclock ⟨_, rfl⟩ hm htimeless
      rw [hruns'.eq_run] at hbehind
      exact hbehind

/-- An offset makes up for a clock that is ahead: with it a call sends the same requests, makes its
corrections at the same attempts, schedules the same retries and ends alike, and it leaves an offset
that makes up for the clock again.  Only a service that asks for a wait until a date can tell the
two apart. -/
theorem execute_compensated (client : Client τ) (call : Call) (id : InvocationId)
    (hclock : env.Ahead millis now) (hm : m.Behind millis m')
    (htimeless : (execute client env call id m).journal.Timeless client.classifier) :
    let e := execute client env call id m
    let e' := execute client (env.withClock now) call id m'
    e'.result = e.result ∧ e'.journal.sends = e.journal.sends ∧
      e'.journal.retries = e.journal.retries ∧ e.journal.Behind millis e'.journal ∧
      e.machine.Behind millis e'.machine := by
  intro e e'
  have hran : (attempts client env call id m).journal.Timeless client.classifier :=
    (Journal.timeless_append.1 htimeless).1
  obtain ⟨hvalue, hjournal, hmachine⟩ := attempts_behind client call id hclock hm hran
  have hbehind : e.journal.Behind millis e'.journal := by
    simp only [e, e', execute, close, hvalue]
    exact .cons (.quiet rfl) (hjournal.append (.cons (.quiet rfl) .nil))
  have hresult : e'.result = e.result := by simp only [e, e', execute, close, hvalue]
  exact ⟨hresult, hbehind.sends_eq, hbehind.retries_eq, hbehind, hmachine⟩

open Rehearsal

theorem measurable_ticking (millis : Fin 86400000) (w : World) :
    (ticking millis w).1.Measurable := by
  constructor
  · exact Int.mul_emod_left _ _
  · simp only [ticking]
    omega

theorem ahead_ticking (millis : Fin 86400000) :
    (environment.withClock (ticking 0)).Ahead millis (ticking millis) := by
  refine ⟨fun w => ⟨?_, measurable_ticking 0 w, measurable_ticking millis w⟩, fun _ => rfl⟩
  simp only [Environment.withClock, ticking, Fin.val_zero]
  omega

/-- Whether its clock is right or ten seconds ahead, a client sends the same three requests to a
service that is an hour ahead and then busy: the clock is corrected after the first. -/
theorem execute_compensated_plain :
    let client := plainClient (Standard.strategy Standard.rules .standard)
    let busy : Http.Response := ⟨⟨503, by decide, by decide⟩, .empty, []⟩
    let m := plainMachine .standard [.response hourAhead, .response busy, .response plainResponse]
    let m' := { m with skew := ⟨⟨-10000, by decide, by decide⟩, true⟩ }
    let e := execute client (environment.withClock (ticking 0)) plainCall .nil m
    let e' := execute client (environment.withClock (ticking 10000)) plainCall .nil m'
    e.journal.corrections.length = 1 ∧ e.journal.sends.length = 3 ∧ e'.result = e.result ∧
      e'.journal.sends = e.journal.sends ∧ e'.journal.retries = e.journal.retries ∧
      e.journal.Behind 10000 e'.journal ∧ e.machine.Behind 10000 e'.machine := by
  intro client busy m m' e e'
  have hcorrected : e.journal.corrections.length = 1 := by decide +kernel
  have hsent : e.journal.sends.length = 3 := by decide +kernel
  have htimeless : ∀ a ∈ e.journal.answers, a.reply.datesRetry client.classifier = false := by
    decide +kernel
  have hbehind : m.Behind 10000 m' := ⟨⟨_, rfl⟩, rfl⟩
  have hcompensated :=
    execute_compensated client plainCall .nil (ahead_ticking 10000) hbehind htimeless
  exact ⟨hcorrected, hsent, hcompensated⟩

/-- A wait until a date is not made up for: the client whose clock is ten seconds ahead does not
wait for the five seconds that are asked for. -/
theorem retry_date_uncompensated :
    let client := plainClient (Standard.strategy Standard.rules .standard)
    let m := plainMachine .standard [.response busyForFive, .response plainResponse]
    let m' := { m with skew := ⟨⟨-10000, by decide, by decide⟩, true⟩ }
    let e := execute client (environment.withClock (ticking 0)) plainCall .nil m
    let e' := execute client (environment.withClock (ticking 10000)) plainCall .nil m'
    (environment.withClock (ticking 0)).Ahead 10000 (ticking 10000) ∧ m.Behind 10000 m' ∧
      e.journal.retries.map (·.wait) = [.ofSeconds 5] ∧
      e'.journal.retries.map (·.wait) = [.zero] := by
  intro client m m' e e'
  have hfive : e.journal.retries.map (·.wait) = [.ofSeconds 5] := by decide +kernel
  have hnone : e'.journal.retries.map (·.wait) = [.zero] := by decide +kernel
  exact ⟨ahead_ticking 10000, ⟨⟨_, rfl⟩, rfl⟩, hfive, hnone⟩

end Execution

end ServiceCall
