import ServiceCall.Proofs.Attempt.Info
import ServiceCall.Proofs.Call.Build
import ServiceCall.Proofs.Execution.Bonus
import ServiceCall.Proofs.Execution.Sends
import ServiceCall.Proofs.Signing.Resigning

/-!
# What requests tell of their attempts

Every request of a call carries the identifier of the call and a text about its attempt.  The number
of the attempt is that of the request, the limit is that of the call, and the deadline was set when
the failure before was heard: the limit of an attempt after the server's date, or after the shifted
local clock if the server told none.
-/

namespace ServiceCall

/-- The server's date in a reply. -/
def Reply.date? : Reply → Option Instant
  | .response r => r.fields.date?
  | .broken .. => none

/-- The date that a failure remembers is the one of the reply that it came from. -/
theorem Reply.serverDate?_eq_date? {c : Classifier} {reply : Reply} {now : Instant}
    {failure : Failure} (houtcome : reply.outcome c now = .error failure) :
    failure.serverDate? = reply.date? := by
  cases reply with
  | response response =>
      simp only [outcome, classify] at houtcome
      split at houtcome
      · cases houtcome
        rfl
      · cases houtcome
  | broken fault detail =>
      cases houtcome
      rfl

/-- Fields tell of an attempt: the identifier of its call stands alone in its field, and its number,
its limit and its deadline are found by their names in the one text of the other field.  The
deadline reads back in whole seconds when its year has four digits. -/
structure Fields.Tells (fields : Fields) (id : InvocationId) (info : AttemptInfo) : Prop where
  id : fields.values .invocationId = [id.value]
  info : ∃ value text, fields.values .requestInfo = [value] ∧ value.text? = some text ∧
    AttemptInfo.part? text "attempt".toList = some (Numeral.ofNat info.attempt) ∧
    AttemptInfo.part? text "max".toList = some (Numeral.ofNat info.limit) ∧
    AttemptInfo.part? text "ttl".toList = info.deadline.map Stamp.format ∧
    ∀ deadline, info.deadline = some deadline →
      0 ≤ (DateTime.ofInstant deadline).date.year →
      (DateTime.ofInstant deadline).date.year ≤ 9999 →
      (AttemptInfo.part? text "ttl".toList).bind Stamp.parse? = some deadline.wholeSeconds

/-- The fields of a built request tell of the attempt it is built for. -/
theorem Call.tells_allFields (c : Call) (defaults : Defaults) (id : InvocationId)
    (info : AttemptInfo) : (c.allFields defaults id info).Tells id info := by
  obtain ⟨hattempt, hlimit, hdeadline⟩ := info.part?_text
  have htext : info.value.text? = some info.text := HeaderValue.text?_ofVisible _
  rw [allFields]
  refine ⟨?_, info.value, info.text, ?_, htext, hattempt, hlimit, hdeadline, ?_⟩
  · rw [Fields.values_set, if_neg (by decide), Fields.values_set, if_pos rfl]
  · rw [Fields.values_set, if_pos rfl]
  · intro deadline hsome hlower hupper
    rw [hdeadline, hsome, Option.map_some, Option.bind_some]
    exact Stamp.parse?_format hlower hupper

/-- Fields that have the two values in common tell the same. -/
theorem Fields.Tells.of_values {fields other : Fields} {id : InvocationId} {info : AttemptInfo}
    (htells : fields.Tells id info)
    (hid : other.values .invocationId = fields.values .invocationId)
    (hinfo : other.values .requestInfo = fields.values .requestInfo) : other.Tells id info := by
  obtain ⟨hids, htext⟩ := htells
  rw [← hid] at hids
  rw [← hinfo] at htext
  exact ⟨hids, htext⟩

namespace Plan

variable {τ σ : Type} {p : Plan τ σ} {left later : Nat} {context reached : Context}
  {m start : Machine τ σ} {before : Journal}

theorem tells_built {turn : Nat} {request : Http.Request}
    (hbuilt : p.built context turn = .ok request) :
    request.fields.Tells context.id context.info := by
  obtain ⟨endpoint, -, hbuild⟩ := exists_of_bind_eq_ok hbuilt
  obtain ⟨_, _, -, -, rfl⟩ := Call.build_parts hbuild
  exact p.call.tells_allFields _ _ _

/-- The local clock, shifted by the offset in force, when the retry after a setback is scheduled. -/
def localTime (p : Plan τ σ) (s : Setback τ σ) : Instant :=
  (p.ruling s).machine.skew.offset.apply
    (p.env.now (p.elapsed (p.ruling s).machine.world).2).1

/-- The time from which the deadline of the attempt after a setback is counted. -/
theorem reference_eq (p : Plan τ σ) (failure : Failure) (m : Machine τ σ) :
    (p.reference failure m).1 =
      failure.serverDate?.getD (m.skew.offset.apply (p.env.now m.world).1) := by
  unfold reference
  cases failure.serverDate? with
  | none => rfl
  | some date => rfl

/-- What a retry passes on as the deadline of the next attempt. -/
theorem Schedules.deadline_eq {failure : Failure} {planned : Delay} {wait : Duration} {bonus : Bool}
    {following : Context} {journal : Journal} {after : Machine τ σ}
    (hschedules : p.Schedules context failure planned wait bonus m
      ⟨.ok following, journal, after⟩) :
    following.info.deadline = some (Context.deadline (failure.serverDate?.getD
      (m.skew.offset.apply (p.env.now (p.elapsed m.world).2).1)) p.timeout) := by
  cases hschedules with
  | scheduled helapsed hwait hreference =>
      have hdate := p.reference_eq failure { m with world := (p.elapsed m.world).2 }
      rw [helapsed, hreference] at hdate
      rw [helapsed]
      exact congrArg (fun date => some (Context.deadline date p.timeout)) hdate

/-- A run that comes to a pass is in its first attempt, or it met a setback in the attempt before
and counts the deadline from there. -/
theorem Reaches.awaits (hreaches : p.Reaches left context m before later reached start) :
    (before.answers = [] ∧ reached.info.deadline = context.info.deadline) ∨
      ∃ s a earlier, p.Meets left context m s ∧
        s.context.info.attempt + 1 = reached.info.attempt ∧
        before.answers = earlier ++ [a] ∧
        a.outcome p.client.classifier = .error s.failure ∧
        reached.info.deadline =
          some (Context.deadline (a.reply.date?.getD (p.localTime s)) p.timeout) := by
  cases hreaches with
  | start => exact .inl ⟨rfl, rfl⟩
  | @again earlier _ _ _ _ _ _ hreaches hretries =>
      have hpasses := hretries.passes
      obtain ⟨hfails, hschedules, -⟩ := hretries
      have hdeadline := hschedules.deadline_eq
      obtain ⟨_, a, _, _, -, houtcome, hshows, -⟩ := hfails.heard
      obtain ⟨_, _, _, _, _, hopen, hattempts, hrules, -⟩ := hfails.parts
      refine .inr ⟨_, a, earlier.answers, .intro hreaches hopen hattempts, hpasses.1.symm, ?_,
        houtcome, ?_⟩
      · rw [Journal.answers_append, Journal.answers_append, hschedules.silent.answers,
          hshows.answers, List.append_nil]
      · rw [hdeadline, Reply.serverDate?_eq_date? houtcome, localTime, ruling, ← hrules.eq_rule]

end Plan

namespace Execution

variable {τ σ : Type}

/-- The deadline that a call tells the service in the attempt after `i` others: none at first, and
later the limit of an attempt after the date of the last answer, or after the shifted local clock if
that answer has none.  A sum that leaves the range of times leaves the date. -/
inductive Due (client : Client τ) (env : Environment σ) (call : Call) (id : InvocationId)
    (m : Machine τ σ) : Nat → Option Instant → Prop where
  | first : Due client env call id m 0 none
  | later {i : Nat} {p : Plan τ σ} {s : Setback τ σ} {a : Answered} {date : Instant}
      (hmeets : Meets client env call id m p s) (hattempt : s.context.info.attempt = i + 1)
      (hanswer : (execute client env call id m).journal.answers[i]? = some a)
      (houtcome : a.outcome client.classifier = .error s.failure)
      (hdate : a.reply.date?.getD (p.localTime s) = date) :
      Due client env call id m (i + 1) (some
        ((date.add? (call.timeout.getD client.defaults.requestTimeout)).getD date))

/-- The deadline at a pass that a call comes to is the one that is due. -/
theorem Due.of_reaches {client : Client τ} {env : Environment σ} {call : Call} {id : InvocationId}
    {m start : Machine τ σ} {signer : Signer} {before : Journal} {later : Nat} {reached : Context}
    (hsigner : client.signers.resolve call.signer = .ok signer)
    (hreaches : (plan client env call signer).Reaches
      ((Context.first id (client.strategy.limit m.strategy)).info.limit - 1)
      (Context.first id (client.strategy.limit m.strategy)) m before later reached start) :
    Due client env call id m before.sends.length reached.info.deadline := by
  have hadvanced := hreaches.advanced
  rcases hreaches.awaits with
    ⟨hnone, hdeadline⟩ | ⟨s, a, earlier, hmeets, hattempt, hanswers, houtcome, hdeadline⟩
  · rw [hdeadline, ← hadvanced.answers, hnone]
    exact .first
  · have hcount : before.sends.length = earlier.length + 1 := by
      rw [← hadvanced.answers, hanswers, List.length_append]
      rfl
    have hmeets := Meets.intro hsigner hmeets
    -- the journal of the call begins with what was written down before the pass
    have hanswer : (execute client env call id m).journal.answers[earlier.length]? = some a := by
      rw [answers_execute, hmeets.attempts_eq_run, hreaches.run_eq, Journal.answers_append,
        hanswers, List.append_assoc, List.getElem?_append_right (Nat.le_refl _), Nat.sub_self]
      rfl
    have hnumber : s.context.info.attempt = earlier.length + 1 := by
      have hreached := hadvanced.attempt
      rw [Context.attempt_first, hcount] at hreached
      omega
    rw [hdeadline, hcount]
    exact .later hmeets hnumber hanswer houtcome rfl

/-- Every request of a call that reaches the transport tells of its attempt: all carry the
identifier of the call, request `i` after nought is attempt `i + 1` of as many as the strategy
allowed when the call began, and it tells the deadline that is due.  A signer of the library changes
nothing of that, nor does any other that leaves the two fields alone. -/
theorem execute_labels (client : Client τ) (env : Environment σ) (call : Call) (id : InvocationId)
    (m : Machine τ σ) :
    let e := execute client env call id m
    ∀ i sent, e.journal.sends[i]? = some sent → ∃ deadline signer built time,
      Due client env call id m i deadline ∧
      client.signers.resolve call.signer = .ok signer ∧
      signer.sign built time = .ok sent.request ∧
      let info : AttemptInfo := ⟨i + 1, max 1 (client.strategy.limit m.strategy), deadline⟩
      built.fields.Tells id info ∧
        (signer.IsBuiltIn ∨ signer.Keeps .invocationId ∧ signer.Keeps .requestInfo →
          sent.request.fields.Tells id info) := by
  intro e i sent hsent
  obtain ⟨signer, before, _, start, hsigner, hhands⟩ := hands_of_sends_execute hsent
  obtain @⟨_, later, reached, _, _, _, _, hreaches, hopen, hsends⟩ := hhands
  obtain ⟨hbuilt, -, hsigned, -, -⟩ := hsends
  have hadvanced := hreaches.advanced
  have hid : (reached.withOffset start.skew.offset).id = id := hadvanced.id
  have htells := Plan.tells_built hbuilt
  rw [hid, Context.info_withOffset, hadvanced.info_eq] at htells
  refine ⟨_, _, _, _, .of_reaches hsigner hreaches, hsigner, hsigned, htells, fun hkeeps => ?_⟩
  obtain ⟨hkeepsId, hkeepsInfo⟩ : signer.Keeps .invocationId ∧ signer.Keeps .requestInfo := by
    rcases hkeeps with hlibrary | hkeeps
    · exact ⟨hlibrary.keeps (by decide), hlibrary.keeps (by decide)⟩
    · exact hkeeps
  exact htells.of_values (hkeepsId _ _ _ hsigned) (hkeepsInfo _ _ _ hsigned)

/-- The second request to a service that is an hour ahead: its deadline is thirty seconds after the
date of the refusal. -/
theorem execute_labels_plain :
    let client := Rehearsal.plainClient (Standard.strategy Standard.rules .standard)
    let m := Rehearsal.plainMachine .standard
      [.response Rehearsal.hourAhead, .response Rehearsal.plainResponse]
    let e := execute client Rehearsal.environment Rehearsal.plainCall .nil m
    ∃ sent value text, e.journal.sends[1]? = some sent ∧
      sent.request.fields.values .invocationId = [InvocationId.nil.value] ∧
      sent.request.fields.values .requestInfo = [value] ∧ value.text? = some text ∧
      AttemptInfo.part? text "attempt".toList = some "2".toList ∧
      AttemptInfo.part? text "max".toList = some "3".toList ∧
      AttemptInfo.part? text "ttl".toList = some "19700101T010030Z".toList := by
  intro client m e
  have hsecond : (e.journal.sends[1]?).isSome = true := by decide +kernel
  have hreply : (e.journal.answers[0]?).map (·.reply) = some (.response Rehearsal.hourAhead) := by
    decide +kernel
  have hnumbers : Numeral.ofNat 2 = "2".toList ∧
      Numeral.ofNat (max 1 (client.strategy.limit m.strategy)) = "3".toList := by decide +kernel
  have hdue : Rehearsal.hourAhead.fields.date?.map (fun date =>
      Stamp.format ((date.add? (.ofSeconds 30)).getD date)) =
        some "19700101T010030Z".toList := by
    decide +kernel
  obtain ⟨sent, hsent⟩ := Option.isSome_iff_exists.1 hsecond
  obtain ⟨deadline, signer, built, time, hdeadline, hsigner, -, -, htells⟩ :=
    execute_labels client Rehearsal.environment Rehearsal.plainCall .nil m 1 sent hsent
  cases hsigner
  obtain ⟨hid, value, text, hvalue, htext, hattempt, hlimit, hstamp, -⟩ := htells (.inl trivial)
  refine ⟨sent, value, text, hsent, hid, hvalue, htext,
    hattempt.trans (congrArg some hnumbers.1), hlimit.trans (congrArg some hnumbers.2), ?_⟩
  rw [hstamp]
  cases hdeadline with
  | @later _ _ _ a date _ _ hanswer _ hdate =>
      rw [hanswer, Option.map_some, Option.some.injEq] at hreply
      rw [hreply] at hdate
      obtain ⟨told, htold, hstamped⟩ := Option.map_eq_some_iff.1 hdue
      have hsame : date = told := by
        rw [← hdate, show Reply.date? (.response _) = some told from htold, Option.getD_some]
      rw [Option.map_some, Option.some.injEq, hsame]
      exact hstamped

end Execution

end ServiceCall
