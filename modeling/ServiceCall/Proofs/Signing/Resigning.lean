import ServiceCall.Attempt.Info
import ServiceCall.Proofs.Http.Fields
import ServiceCall.Proofs.Http.Updates
import ServiceCall.Proofs.Text.Joins
import ServiceCall.Signing.Signer

/-!
# Signing again

A signer of the library writes a row of fields over those of a request, and which fields these are
does not depend on the time.  A second signature therefore leaves nothing of the first: the
authorization of the first is dropped before anything is signed, and the other fields of the first
are written over.
-/

namespace ServiceCall

/-- A canonical request says nothing of the fields that are not signed. -/
theorem Canonical.text_eq_of_values {request : Http.Request} {fields : Fields}
    (hvalues : ∀ name, isUnsigned name = false → fields.values name = request.fields.values name)
    (hash : Text) :
    nameList fields = nameList request.fields ∧
      text { request with fields } hash = text request hash := by
  have hnames : signedNames fields = signedNames request.fields := by
    refine (Fields.filter_names_eq_iff _ _ _).2 fun name hname => ?_
    rw [Bool.eq_iff_iff, Fields.contains_eq_true_iff, Fields.contains_eq_true_iff,
      hvalues name (by simpa using hname)]
  have hlist : nameList fields = nameList request.fields := by rw [nameList, nameList, hnames]
  have hlines : lines fields = lines request.fields := by
    rw [lines, lines, hnames, List.flatMap, List.flatMap]
    apply congrArg List.flatten
    refine List.map_congr_left fun name hname => ?_
    have hsigned : isUnsigned name = false := by simpa using (List.mem_filter.1 hname).2
    rw [line, line, hvalues name hsigned]
  exact ⟨hlist, by rw [text, text, hlist, hlines]⟩

namespace SigV4

variable {s : SigV4} {request signed : Http.Request} {time : Instant}

/-! ## Values -/

/-- Whether a text may stand in a field. -/
def isWritable (s : Text) : Bool := (Utf8.encode s).all isFieldByte

theorem isWritable_append (s t : Text) :
    isWritable (s ++ t) = (isWritable s && isWritable t) := by
  simp [isWritable, Utf8.encode]

theorem isWritable_slash (s : Text) : isWritable ('/' :: s) = isWritable s := by
  rw [show '/' :: s = ['/'] ++ s from rfl, isWritable_append]
  rfl

theorem isWritable_of_isVisible {s : Text} (hvisible : Text.isVisible s = true) :
    isWritable s = true := isFieldByte_of_isVisible hvisible

theorem value_of_isVisible {s : Text} (hvisible : Text.isVisible s = true) :
    value s = .ok (.ofVisible s hvisible) := by
  rw [value, HeaderValue.ofText?_of_isVisible hvisible]

theorem value_of_isWritable {s : Text} (hwritable : isWritable s = true) :
    ∃ v, value s = .ok v ∧ v.bytes = Utf8.encode s := by
  have hbytes : HeaderValue.ofText? s = some ⟨Utf8.encode s, hwritable, false⟩ := dif_pos hwritable
  exact ⟨_, by rw [value, hbytes], rfl⟩

theorem value_of_not_isWritable {s : Text} (hwritable : isWritable s = false) :
    value s = .error (.configuration .invalidSignedValue) := by
  have hnone : HeaderValue.ofText? s = none := dif_neg (Bool.eq_false_iff.1 hwritable)
  rw [value, hnone]

/-- Whether the configuration can be written into an authorization. -/
def isPrintable (s : SigV4) : Bool :=
  isWritable s.credentials.accessKeyId && isWritable s.region && isWritable s.service

theorem isVisible_authority {authority : Text}
    (hauthority : request.uri.authority = some authority) :
    Text.isVisible authority = true := by
  have hvalid := request.uri.authority_valid
  rw [hauthority, Option.getD_some, List.all_eq_true] at hvalid
  exact List.all_eq_true.2 fun c hc => isVisibleChar_of_or (by decide) (hvalid c hc)

theorem isVisible_name (name : HeaderName) : Text.isVisible name.text = true := by
  have hvalid := name.valid
  simp only [HeaderName.isName, Bool.and_eq_true, List.all_eq_true] at hvalid
  exact List.all_eq_true.2 fun c hc => isVisibleChar_of_or (by decide) (hvalid.1.2 c hc).1

theorem isWritable_nameList (fields : Fields) : isWritable (Canonical.nameList fields) = true := by
  refine isWritable_of_isVisible (List.all_eq_true.2 fun c hc => ?_)
  rcases Text.mem_join hc with hsemicolon | ⟨piece, hpiece, hmem⟩
  · rw [List.mem_singleton.1 hsemicolon]
    rfl
  · obtain ⟨name, -, rfl⟩ := List.mem_map.1 hpiece
    exact List.all_eq_true.1 (isVisible_name name) c hmem

theorem isVisible_day (time : Instant) : Text.isVisible (Stamp.day time) = true := by
  have hvisible := AttemptInfo.isVisible_stamp time
  simp only [Stamp.format, isVisible_append, Bool.and_eq_true] at hvisible
  exact hvisible.1.1.1.1

/-- Nothing but the configuration decides whether an authorization can be written. -/
theorem isWritable_authorizationText (s : SigV4) (request : Http.Request) (time : Instant) :
    isWritable (s.authorizationText request time) = s.isPrintable := by
  have hday : isWritable (Stamp.day time) = true :=
    isWritable_of_isVisible (isVisible_day time)
  have hsignature : isWritable (s.signature request time) = true :=
    isWritable_of_isVisible (isVisible_hex _)
  have halgorithm : isWritable algorithm = true := by decide
  have hcredential : isWritable " Credential=".toList = true := by decide
  have hheaders : isWritable ", SignedHeaders=".toList = true := by decide
  have hlabel : isWritable ", Signature=".toList = true := by decide
  have hterminator : isWritable terminator = true := by decide
  have hslash : isWritable ['/'] = true := by decide
  simp only [authorizationText, scope, Text.join, isWritable_append, isWritable_slash,
    isWritable_nameList, hday, hsignature, hslash, halgorithm, hcredential, hheaders, hlabel,
    hterminator, Bool.and_true, Bool.true_and, isPrintable, Bool.and_assoc]

/-! ## The fields that are covered -/

private theorem ok_bind {α β : Type} (a : α) (next : α → Except Failure β) :
    (Except.ok a >>= next) = next a := rfl

/-- The fields that the signature covers beyond those of the request. -/
def coveredNames (s : SigV4) : List HeaderName :=
  [.host, dateField] ++ (if s.contentField then [contentHashField] else []) ++
    (if s.credentials.sessionToken.isSome then [tokenField] else [])

/-- The value of a time of signing. -/
def dateValue (time : Instant) : HeaderValue :=
  .ofVisible (Stamp.format time) (AttemptInfo.isVisible_stamp time)

/-- The value of the hash of a body. -/
def hashValue (request : Http.Request) : HeaderValue :=
  .ofVisible (bodyHash request) (isVisible_hex _)

/-- The covered fields with their values. -/
def row (s : SigV4) (host date hash : HeaderValue) (token : Option HeaderValue) :
    List (HeaderName × HeaderValue) :=
  [(.host, host), (dateField, date)] ++ (if s.contentField then [(contentHashField, hash)] else [])
    ++ token.toList.map (tokenField, ·)

theorem map_row {token : Option HeaderValue} (host date hash : HeaderValue)
    (htoken : token.isSome = s.credentials.sessionToken.isSome) :
    (s.row host date hash token).map (·.1) = s.coveredNames := by
  rw [row, coveredNames, ← htoken]
  cases s.contentField <;> cases token <;> rfl

/-- Whether the covered fields can be written. -/
def canPrepare (s : SigV4) (request : Http.Request) : Bool :=
  request.uri.authority.isSome && s.credentials.sessionToken.all isWritable

/-- The fields of a prepared request. -/
def preparedFields (s : SigV4) (request : Http.Request) (host : HeaderValue)
    (token : Option HeaderValue) (fields : Fields) (time : Instant) : Fields :=
  (fields.remove .authorization).setAll (s.row host (dateValue time) (hashValue request) token)

/-- The value that the host field gets. -/
def hostValue (request : Http.Request) : Except Failure HeaderValue :=
  match request.uri.authority with
  | some authority => value authority
  | none => .error (.configuration .missingHost)

/-- The value of the session token, if there is one. -/
def tokenValue (s : SigV4) : Except Failure (Option HeaderValue) :=
  match s.credentials.sessionToken with
  | some token => (value token).map fun token => some token.asSensitive
  | none => .ok none

/-- Of all that is written, only the host and the token can fail. -/
theorem prepare_eq (s : SigV4) (request : Http.Request) (time : Instant) :
    s.prepare request time = (hostValue request).bind fun host => s.tokenValue.map fun token =>
      { request with fields := s.preparedFields request host token request.fields time } := by
  have hdate : value (Stamp.format time) = .ok (dateValue time) := value_of_isVisible _
  have hhash : value (bodyHash request) = .ok (hashValue request) := value_of_isVisible _
  cases hauthority : request.uri.authority with
  | none =>
      simp only [prepare, hostValue, hauthority]
      rfl
  | some authority =>
      cases hhost : value authority with
      | error failure =>
          simp only [prepare, hostValue, hauthority, hhost, ok_bind]
          rfl
      | ok host =>
          cases htoken : s.credentials.sessionToken with
          | none =>
              simp only [prepare, hostValue, tokenValue, hauthority, hhost, hdate, hhash, htoken,
                ok_bind, preparedFields, row]
              split <;> rfl
          | some token =>
              cases hwritten : value token with
              | error failure | ok written =>
                  simp only [prepare, hostValue, tokenValue, hauthority, hhost, hdate, hhash,
                    htoken, hwritten, ok_bind, preparedFields, row]
                  split <;> rfl

theorem hostValue_eq {authority : Text} (hauthority : request.uri.authority = some authority) :
    hostValue request = .ok (.ofVisible authority (isVisible_authority hauthority)) := by
  rw [hostValue, hauthority]
  exact value_of_isVisible _

/-- A token can be written, or the failure is one of the configuration. -/
theorem tokenValue_cases (s : SigV4) :
    (s.credentials.sessionToken.all isWritable = false ∧
        s.tokenValue = .error (.configuration .invalidSignedValue)) ∨
      s.credentials.sessionToken.all isWritable = true ∧
        ∃ token, token.isSome = s.credentials.sessionToken.isSome ∧ s.tokenValue = .ok token := by
  cases htoken : s.credentials.sessionToken with
  | none =>
      refine .inr ⟨rfl, none, rfl, ?_⟩
      simp only [tokenValue, htoken]
  | some token =>
      cases hwritable : isWritable token with
      | false =>
          refine .inl ⟨hwritable, ?_⟩
          simp only [tokenValue, htoken, value_of_not_isWritable hwritable]
          rfl
      | true =>
          obtain ⟨written, hwritten, -⟩ := value_of_isWritable hwritable
          refine .inr ⟨hwritable, some written.asSensitive, rfl, ?_⟩
          simp only [tokenValue, htoken, hwritten]
          rfl

/-- A request can be prepared for no time, or for each; and then the same fields are written, all
but the date with the same values. -/
theorem prepare_cases (s : SigV4) (request : Http.Request) :
    (s.canPrepare request = false ∧ ∃ failure : Failure, failure.kind = .configuration ∧
      ∀ fields time, s.prepare { request with fields } time = .error failure) ∨
    s.canPrepare request = true ∧ ∃ host token,
      token.isSome = s.credentials.sessionToken.isSome ∧
      ∀ fields time, s.prepare { request with fields } time =
        .ok { request with fields := s.preparedFields request host token fields time } := by
  simp only [prepare_eq, canPrepare]
  cases hauthority : request.uri.authority with
  | none =>
      refine .inl ⟨rfl, .configuration .missingHost, rfl, fun fields time => ?_⟩
      simp only [hostValue, hauthority]
      rfl
  | some authority =>
      let host : HeaderValue := .ofVisible authority (isVisible_authority hauthority)
      have hhost (fields : Fields) : hostValue { request with fields } = .ok host :=
        hostValue_eq hauthority
      rcases s.tokenValue_cases with ⟨hwritable, hfails⟩ | ⟨hwritable, token, htoken, hwritten⟩
      · refine .inl ⟨hwritable, .configuration .invalidSignedValue, rfl, fun fields time => ?_⟩
        simp only [hhost, hfails]
        rfl
      · refine .inr ⟨hwritable, host, token, htoken, fun fields time => ?_⟩
        simp only [hhost, hwritten]
        rfl

/-! ## The authorization -/

/-- A prepared request with its authorization. -/
def authorize (s : SigV4) (prepared : Http.Request) (time : Instant) :
    Except Failure Http.Request :=
  (value (s.authorizationText prepared time)).map fun authorization =>
    { prepared with fields := prepared.fields.set .authorization authorization.asSensitive }

theorem sign_eq (s : SigV4) (request : Http.Request) (time : Instant) :
    s.sign request time =
      (s.prepare request time).bind fun prepared => s.authorize prepared time := by
  rw [sign]
  cases s.prepare request time with
  | error failure => rfl
  | ok prepared =>
      rw [ok_bind, Except.bind, authorize]
      cases value (s.authorizationText prepared time) <;> rfl

/-- Setting the authorization does not change what is signed. -/
theorem authorizationText_set (s : SigV4) (prepared : Http.Request) (v : HeaderValue)
    (time : Instant) :
    s.authorizationText { prepared with fields := prepared.fields.set .authorization v } time =
      s.authorizationText prepared time := by
  have hvalues : ∀ name, Canonical.isUnsigned name = false →
      (prepared.fields.set .authorization v).values name = prepared.fields.values name := by
    intro name hname
    rw [Fields.values_set, if_neg]
    rintro rfl
    cases hname
  obtain ⟨hlist, htext⟩ := Canonical.text_eq_of_values hvalues (bodyHash prepared)
  have hsigned : s.signedText
      { prepared with fields := prepared.fields.set .authorization v } time =
        s.signedText prepared time := by
    rw [signedText, signedText, ← htext]
    rfl
  rw [authorizationText, authorizationText, signature, signature, hlist, hsigned]

theorem authorization_not_mem_coveredNames (s : SigV4) : .authorization ∉ s.coveredNames := by
  rw [coveredNames]
  split <;> split <;> decide

theorem nodup_coveredNames (s : SigV4) : s.coveredNames.Nodup := by
  rw [coveredNames]
  split <;> split <;> decide

/-- What a signed request has of the request and of the signature, and what a second signature makes
of it. -/
structure Seals (s : SigV4) (request : Http.Request) (time : Instant) (signed : Http.Request) :
    Prop where
  method : signed.method = request.method
  uri : signed.uri = request.uri
  body : signed.body = request.body
  kept : ∀ name, name ≠ .authorization → name ∉ s.coveredNames →
    signed.fields.values name = request.fields.values name
  authorization : ∃ v, signed.fields.values .authorization = [v] ∧
    v.bytes = Utf8.encode (s.authorizationText signed time) ∧ v.sensitive = true
  again : ∀ later, s.sign signed later = s.sign request later

/-- Whether a request can be signed: it goes to a host, and all of the configuration that signing
writes can be written. -/
def canSign (s : SigV4) (request : Http.Request) : Bool := s.canPrepare request && s.isPrintable

/-- A request can be signed for no time, or for each. -/
theorem sign_cases (s : SigV4) (request : Http.Request) :
    (s.canSign request = false ∧ ∃ failure : Failure, failure.kind = .configuration ∧
      ∀ time, s.sign request time = .error failure) ∨
    s.canSign request = true ∧
      ∀ time, ∃ signed, s.sign request time = .ok signed ∧ s.Seals request time signed := by
  rw [canSign]
  rcases s.prepare_cases request with
    ⟨hprepares, failure, hkind, hprepare⟩ | ⟨hprepares, host, token, htoken, hprepare⟩
  · refine .inl ⟨by rw [hprepares, Bool.false_and], failure, hkind, fun time => ?_⟩
    rw [sign_eq, show s.prepare request time = _ from hprepare request.fields time]
    rfl
  · let row (time : Instant) := s.row host (dateValue time) (hashValue request) token
    have hnames (time : Instant) : (row time).map (·.1) = s.coveredNames := map_row _ _ _ htoken
    have hsign (fields : Fields) (time : Instant) : s.sign { request with fields } time =
        s.authorize
          { request with fields := (fields.remove .authorization).setAll (row time) } time := by
      rw [sign_eq, hprepare fields time]
      rfl
    cases hprintable : s.isPrintable with
    | false =>
        refine .inl ⟨by rw [Bool.and_false], .configuration .invalidSignedValue, rfl,
          fun time => ?_⟩
        rw [show s.sign request time = _ from hsign request.fields time, authorize,
          value_of_not_isWritable (by rw [isWritable_authorizationText, hprintable])]
        rfl
    | true =>
        refine .inr ⟨by rw [hprepares, Bool.true_and], fun time => ?_⟩
        have hnot : .authorization ∉ (row time).map (·.1) := by
          rw [hnames]
          exact s.authorization_not_mem_coveredNames
        let prepared : Http.Request :=
          { request with fields := (request.fields.remove .authorization).setAll (row time) }
        obtain ⟨v, hv, hbytes⟩ := value_of_isWritable
          ((s.isWritable_authorizationText prepared time).trans hprintable)
        refine ⟨{ prepared with fields := prepared.fields.set .authorization v.asSensitive }, ?_,
          rfl, rfl, rfl, fun name hname hcovered => ?_, ?_, fun later => ?_⟩
        · rw [show s.sign request time = _ from hsign request.fields time, authorize, hv]
          rfl
        · rw [Fields.values_set, if_neg hname.symm, Fields.values_setAll (by rwa [hnames]),
            Fields.values_remove, if_neg hname.symm]
        · refine ⟨v.asSensitive, ?_, ?_, rfl⟩
          · rw [Fields.values_set, if_pos rfl]
          · rw [authorizationText_set]
            exact hbytes
        · -- the second signature drops the first authorization and writes over the first row
          have hdropped : (prepared.fields.set .authorization v.asSensitive).remove .authorization =
              (request.fields.remove .authorization).setAll (row time) := by
            rw [Fields.remove_set, Fields.remove_of_not_contains]
            exact (Fields.contains_setAll hnot).trans Fields.contains_remove_self
          have hrows : (row time).map (·.1) = (row later).map (·.1) := by rw [hnames, hnames]
          have hnodup : ((row time).map (·.1)).Nodup := by
            rw [hnames]
            exact s.nodup_coveredNames
          rw [show s.sign request later = _ from hsign request.fields later,
            ← Fields.setAll_setAll hrows hnodup, ← hdropped]
          exact hsign _ later

end SigV4

namespace Signer

/-- Whether a signer is one of the three of the library. -/
def IsBuiltIn : Signer → Prop
  | null | bearer _ | sigV4 _ => True
  | custom _ _ => False

/-- The fields that a signer of the library may write. -/
def writtenNames : List HeaderName :=
  [.authorization, .host, SigV4.dateField, SigV4.contentHashField, SigV4.tokenField]

theorem mem_writtenNames_of_mem_coveredNames {config : SigV4} {name : HeaderName}
    (hname : name ∈ config.coveredNames) : name ∈ writtenNames := by
  have hsublist : config.coveredNames.Sublist writtenNames := by
    rw [SigV4.coveredNames]
    split <;> split <;> decide
  exact hsublist.subset hname

/-- A signer passes a field on as it is. -/
def Keeps (s : Signer) (name : HeaderName) : Prop :=
  ∀ request time signed, s.sign request time = .ok signed →
    signed.fields.values name = request.fields.values name

/-- The fields that a signer of the library does not write are kept. -/
theorem IsBuiltIn.keeps {s : Signer} (hlibrary : s.IsBuiltIn) {name : HeaderName}
    (hname : name ∉ writtenNames) : s.Keeps name := by
  intro request time signed hsigned
  have hauthorization : name ≠ .authorization := by
    rintro rfl
    exact hname (by decide)
  cases s with
  | null =>
      cases hsigned
      rfl
  | bearer token =>
      cases hsigned
      rw [Fields.values_set, if_neg hauthorization.symm]
  | sigV4 config =>
      rcases config.sign_cases request with ⟨-, failure, -, hfails⟩ | ⟨-, hsigns⟩
      · cases (hfails time).symm.trans hsigned
      · obtain ⟨made, hmade, hseals⟩ := hsigns time
        cases hmade.symm.trans hsigned
        exact hseals.kept name hauthorization (mt mem_writtenNames_of_mem_coveredNames hname)
  | custom name sign => cases hlibrary

/-- Signing again at another time gives what signing at that time alone would have given, be it a
request or a failure of the configuration; the time has no part in which of the two it is.  A signed
request differs from the request in the fields that a signer writes only, it is signed already for
its own time, and its signature is the one of what it has become. -/
theorem sign_again (s : Signer) (hlibrary : s.IsBuiltIn) (request : Http.Request)
    (first second : Instant) :
    ((s.sign request first).bind fun signed => s.sign signed second) = s.sign request second ∧
      (∀ failure, s.sign request second = .error failure → failure.kind = .configuration) ∧
      (∀ config, s = .sigV4 config →
        ((∃ signed, s.sign request second = .ok signed) ↔ config.canSign request = true)) ∧
      ∀ signed, s.sign request second = .ok signed →
        s.sign signed second = .ok signed ∧
          signed.method = request.method ∧ signed.uri = request.uri ∧
          signed.body = request.body ∧
          (∀ name ∉ writtenNames, signed.fields.values name = request.fields.values name) ∧
          ∀ config, s = .sigV4 config → ∃ v, signed.fields.values .authorization = [v] ∧
            v.bytes = Utf8.encode (config.authorizationText signed second) ∧
            v.sensitive = true := by
  have hkeeps : ∀ signed, s.sign request second = .ok signed → ∀ name ∉ writtenNames,
      signed.fields.values name = request.fields.values name :=
    fun signed hsigned name hname => hlibrary.keeps hname request second signed hsigned
  cases s with
  | null =>
      refine ⟨rfl, fun _ hfails => (by cases hfails), fun _ hconfig => (by cases hconfig),
        fun signed hsigned => ?_⟩
      cases hsigned
      refine ⟨rfl, rfl, rfl, rfl, fun _ _ => rfl, fun _ hconfig => ?_⟩
      cases hconfig
  | bearer token =>
      have hagain : (request.fields.set .authorization token).set .authorization token =
          request.fields.set .authorization token := Fields.set_set
      refine ⟨?_, fun _ hfails => (by cases hfails), fun _ hconfig => (by cases hconfig),
        fun signed hsigned => ?_⟩
      · simp only [sign, Except.bind, hagain]
      · cases hsigned
        refine ⟨by simp only [sign, hagain], rfl, rfl, rfl, hkeeps _ rfl, fun _ hconfig => ?_⟩
        cases hconfig
  | sigV4 config =>
      rcases config.sign_cases request with ⟨hnot, failure, hkind, hfails⟩ | ⟨hcan, hsigns⟩
      · simp only [sign, hfails]
        refine ⟨rfl, ?_, ?_, fun _ hsigned => ?_⟩
        · rintro _ ⟨⟩
          exact hkind
        · rintro _ ⟨⟩
          simp [hnot]
        · cases hsigned
      · obtain ⟨earlier, hearlier, hseals⟩ := hsigns first
        obtain ⟨made, hmade, hsealed⟩ := hsigns second
        simp only [sign, hearlier, hmade, Except.bind, hseals.again second]
        refine ⟨trivial, fun _ hfails => (by cases hfails), ?_, ?_⟩
        · rintro _ ⟨⟩
          exact iff_of_true ⟨made, rfl⟩ hcan
        · rintro _ ⟨⟩
          refine ⟨(hsealed.again second).trans hmade, hsealed.method, hsealed.uri, hsealed.body,
            hkeeps _ hmade, ?_⟩
          rintro _ ⟨⟩
          exact hsealed.authorization
  | custom name sign => cases hlibrary

/-- A request with a stale authorization and a date of its own can be signed, and then signed again
for any time. -/
theorem sign_again_stale :
    let config : SigV4 :=
      ⟨⟨"id".toList, "secret".toList, some "token".toList⟩, "local".toList, "items".toList, true⟩
    let stale : HeaderValue := .ofVisible "stale".toList (by decide)
    let request : Http.Request :=
      { method := .get
        uri := ⟨some "http".toList, some "localhost".toList, ['/'], none, by decide, by decide,
          by decide⟩
        fields := ⟨[(.authorization, stale), (SigV4.dateField, stale), (.authorization, stale)]⟩
        body := none }
    (sigV4 config).IsBuiltIn ∧ ∃ signed, (sigV4 config).sign request .epoch = .ok signed ∧
      ∀ later, (sigV4 config).sign signed later = (sigV4 config).sign request later := by
  intro config stale request
  obtain ⟨-, -, hcan, -⟩ := sign_again (.sigV4 config) trivial request .epoch .epoch
  obtain ⟨signed, hsigned⟩ := (hcan config rfl).2 (by decide)
  refine ⟨trivial, signed, hsigned, fun later => ?_⟩
  have hagain := (sign_again (.sigV4 config) trivial request .epoch later).1
  rwa [hsigned] at hagain

end Signer

end ServiceCall
