import ServiceCall.Call.Build

/-!
# What a request is built of

A request has the method and the body of its call, and a URI that is read from the call's target at
the endpoint.  Of the attempt it is built for it has the value of one field.
-/

namespace ServiceCall

open Http (Request)

/-- What comes of two steps in a row came of the first one. -/
theorem exists_of_bind_eq_ok {α β : Type} {x : Except Failure α} {next : α → Except Failure β}
    {b : β} (hbind : (x >>= next) = .ok b) : ∃ a, x = .ok a ∧ next a = .ok b := by
  cases x with
  | error failure => cases hbind
  | ok a => exact ⟨a, rfl, hbind⟩

/-- Two requests are the same but for the values of some fields. -/
structure Http.Request.AgreeOutside (names : List HeaderName) (a b : Request) : Prop where
  method : a.method = b.method
  uri : a.uri = b.uri
  body : a.body = b.body
  values : ∀ name ∉ names, a.fields.values name = b.fields.values name

theorem Http.Request.AgreeOutside.eq_with {names : List HeaderName} {a b : Request}
    (hagree : AgreeOutside names a b) : b = { a with fields := b.fields } := by
  obtain ⟨hmethod, huri, hbody, -⟩ := hagree
  rw [hmethod, huri, hbody]

namespace Call

variable {c : Call} {defaults : Defaults} {endpoint : Text} {id : InvocationId}
  {info other : AttemptInfo} {request a b : Request}

/-- The parts of a built request. -/
theorem build_parts (hbuild : c.build defaults endpoint id info = .ok request) :
    ∃ base uri, c.endpoint defaults endpoint = .ok base ∧
      Uri.parse? (c.target base) = some uri ∧
      request = ⟨c.method, uri, c.allFields defaults id info, c.body⟩ := by
  obtain ⟨base, hbase, hparsed⟩ := exists_of_bind_eq_ok hbuild
  dsimp only at hparsed
  split at hparsed
  · cases hparsed
  · rename_i uri hparse
    cases hparsed
    exact ⟨base, uri, hbase, hparse, rfl⟩

theorem build_eq_ok {base : Text} {uri : Uri} (hbase : c.endpoint defaults endpoint = .ok base)
    (huri : Uri.parse? (c.target base) = some uri) :
    c.build defaults endpoint id info =
      .ok ⟨c.method, uri, c.allFields defaults id info, c.body⟩ := by
  simp only [build, hbase, bind, Except.bind, huri]
  rfl

theorem endpoint_of_unprefixed
    (hunprefixed : c.hostPrefix = none ∨ defaults.hostPrefixInjection = false) :
    c.endpoint defaults endpoint = .ok endpoint := by
  rw [Call.endpoint]
  rcases hunprefixed with hunprefixed | hunprefixed
  · rw [hunprefixed]
  · rw [hunprefixed]
    split <;> rfl

theorem requestInfo_of_build (hbuild : c.build defaults endpoint id info = .ok request) :
    request.fields.values .requestInfo = [info.value] := by
  obtain ⟨_, _, -, -, rfl⟩ := build_parts hbuild
  exact (Fields.values_set ..).trans (if_pos rfl)

/-- An attempt decides nothing of its request but the field that tells of it. -/
theorem build_agreeOutside (ha : c.build defaults endpoint id info = .ok a)
    (hb : c.build defaults endpoint id other = .ok b) :
    Request.AgreeOutside [.requestInfo] a b := by
  obtain ⟨_, _, hbase, huri, rfl⟩ := build_parts ha
  obtain ⟨_, _, hsame, hother, rfl⟩ := build_parts hb
  cases hbase.symm.trans hsame
  cases huri.symm.trans hother
  refine ⟨rfl, rfl, rfl, fun name hname => ?_⟩
  have hinfo : .requestInfo ≠ name := fun heq => hname (List.mem_singleton.2 heq.symm)
  simp only [allFields, Fields.values_set _ .requestInfo, if_neg hinfo]

/-! ## Failures to build -/

theorem configuration_of_expand {template : Text} {field : Text → Option Text} {failure : Failure}
    (hexpand : HostPrefix.expand template field = .error failure) :
    ∃ fault, failure = .configuration fault := by
  rw [HostPrefix.expand] at hexpand
  split at hexpand
  · cases hexpand
    exact ⟨_, rfl⟩
  · split at hexpand
    · cases hexpand
    · cases hexpand
      exact ⟨_, rfl⟩

theorem configuration_of_prepend {label endpoint : Text} {failure : Failure}
    (hprepend : HostPrefix.prepend label endpoint = .error failure) :
    ∃ fault, failure = .configuration fault := by
  rw [HostPrefix.prepend] at hprepend
  split at hprepend
  · cases hprepend
  · split at hprepend
    · cases hprepend
      exact ⟨_, rfl⟩
    · split at hprepend
      · cases hprepend
        exact ⟨_, rfl⟩
      · split at hprepend
        · cases hprepend
          exact ⟨_, rfl⟩
        · cases hprepend

theorem configuration_of_endpoint {failure : Failure}
    (hendpoint : c.endpoint defaults endpoint = .error failure) :
    ∃ fault, failure = .configuration fault := by
  rw [Call.endpoint] at hendpoint
  split at hendpoint
  · rename_i template _
    split at hendpoint
    · cases hexpand : HostPrefix.expand template c.prefixField? with
      | error earlier =>
          rw [hexpand] at hendpoint
          cases hendpoint
          exact configuration_of_expand hexpand
      | ok label =>
          rw [hexpand] at hendpoint
          exact configuration_of_prepend hendpoint
    · cases hendpoint
  · cases hendpoint

/-- A request that cannot be built is a fault of the configuration. -/
theorem configuration_of_build {failure : Failure}
    (hbuild : c.build defaults endpoint id info = .error failure) :
    ∃ fault, failure = .configuration fault := by
  rw [build] at hbuild
  cases hbase : c.endpoint defaults endpoint with
  | error earlier =>
      rw [hbase] at hbuild
      cases hbuild
      exact configuration_of_endpoint hbase
  | ok base =>
      rw [hbase] at hbuild
      simp only [bind, Except.bind] at hbuild
      split at hbuild
      · cases hbuild
        exact ⟨_, rfl⟩
      · cases hbuild

end Call

end ServiceCall
