import ServiceCall.Proofs.Signing.Canonical
import ServiceCall.Proofs.Signing.Replay
import ServiceCall.Proofs.Text.Ascii
import ServiceCall.Proofs.Text.Utf8

/-!
# User info in a signed request

An authority may name a user, even with a password, in front of its host.  Signature version 4
writes the whole authority into the host field, so the user info is sent in that field and it is a
part of what is signed.  Nothing else of a signed request depends on it, and no failure does.
-/

namespace ServiceCall

namespace Uri

/-- The user info up to its at sign, which is the last one of an authority, or nothing. -/
def userInfo (u : Uri) : Text := (u.authority.getD []).rdropWhile (· ≠ '@')

/-- The host with its port, which stand behind the user info. -/
def hostPort (u : Uri) : Option Text := u.authority.map (·.rtakeWhile (· ≠ '@'))

theorem authority_eq (u : Uri) : u.authority = u.hostPort.map (u.userInfo ++ ·) := by
  rw [userInfo, hostPort]
  cases u.authority with
  | none => rfl
  | some authority =>
      have hwhole := congrArg List.reverse
        (List.takeWhile_append_dropWhile (p := (· ≠ '@')) (l := authority.reverse))
      rw [List.reverse_append, List.reverse_reverse] at hwhole
      exact congrArg some hwhole.symm

end Uri

/-- Two requests are the same but for the user info of their URIs. -/
structure Http.Request.SameButUser (a b : Request) : Prop where
  method : a.method = b.method
  scheme : a.uri.scheme = b.uri.scheme
  hostPort : a.uri.hostPort = b.uri.hostPort
  path : a.uri.path = b.uri.path
  query : a.uri.query = b.uri.query
  fields : a.fields = b.fields
  body : a.body = b.body

variable {a b : Http.Request}

/-- Only the user info can tell them apart. -/
theorem Http.Request.SameButUser.eq_iff (hsame : a.SameButUser b) :
    a = b ↔ a.uri.userInfo = b.uri.userInfo := by
  refine ⟨fun heq => by rw [heq], fun hinfo => ?_⟩
  have hauthority : a.uri.authority = b.uri.authority := by
    rw [a.uri.authority_eq, b.uri.authority_eq, hsame.hostPort, hinfo]
  obtain ⟨hmethod, hscheme, -, hpath, hquery, hfields, hbody⟩ := hsame
  obtain ⟨method, ⟨scheme, authority, path, query, _, _, _⟩, fields, body⟩ := a
  cases hmethod
  cases hscheme
  cases hauthority
  cases hpath
  cases hquery
  cases hfields
  cases hbody
  rfl

namespace Canonical

/-- A single value without blanks says its text. -/
theorem said_of_value {fields : Fields} {name : HeaderName} {v : HeaderValue} {s : Text}
    (hvalues : fields.values name = [v]) (hbytes : v.bytes = Utf8.encode s)
    (hs : ∀ c ∈ s, isBlank c = false) : said fields name = s := by
  rw [said, hvalues, List.map_singleton, hbytes, Utf8.decodeLossy_encode,
    Text.trim_of_no_blank hs, Text.collapseRuns_of_no_blank hs]
  rfl

/-- What a signed field says can be read off the canonical text. -/
theorem said_of_text_eq
    (htext : text a (SigV4.bodyHash a) = text b (SigV4.bodyHash b)) {name : HeaderName}
    (hname : isUnsigned name = false) : said a.fields name = said b.fields name := by
  rw [text_eq_join_parts, text_eq_join_parts] at htext
  have hparts := Text.join_injective (by simp [parts]) (by simp [parts])
    (lineEnd_not_mem_parts (lineEnd_not_mem_bodyHash a))
    (lineEnd_not_mem_parts (lineEnd_not_mem_bodyHash b)) htext
  obtain ⟨-, -, -, hlines, -⟩ := (parts_eq_iff a b _ _).1 hparts
  exact ((map_lineText_eq_iff a.fields b.fields).1 hlines).2 name hname

end Canonical

namespace SigV4

variable {s : SigV4} {request signed other : Http.Request} {time : Instant} {failure : Failure}

/-! ## Failures -/

theorem sign_of_hostless (hauthority : request.uri.authority = none) :
    s.sign request time = .error (.configuration .missingHost) := by
  rw [sign_eq, prepare_eq, hostValue, hauthority]
  rfl

theorem sign_of_host {authority : Text} (hauthority : request.uri.authority = some authority) :
    s.sign request time = s.tokenValue.bind fun token => s.authorize
      { request with
        fields := s.preparedFields request (.ofVisible authority (isVisible_authority hauthority))
          token request.fields time } time := by
  rw [sign_eq, prepare_eq, hostValue_eq hauthority]
  cases s.tokenValue <;> rfl

theorem authorize_eq_error_iff {prepared : Http.Request} :
    s.authorize prepared time = .error failure ↔
      s.isPrintable = false ∧ failure = .configuration .invalidSignedValue := by
  have hwritable := s.isWritable_authorizationText prepared time
  cases hprintable : s.isPrintable with
  | false =>
      rw [authorize, value_of_not_isWritable (hwritable.trans hprintable)]
      simp [Except.map, eq_comm]
  | true =>
      obtain ⟨v, hv, -⟩ := value_of_isWritable (hwritable.trans hprintable)
      rw [authorize, hv]
      simp [Except.map]

/-- The user info has no part in a failure. -/
theorem sign_eq_error_iff (hsame : a.SameButUser b) :
    s.sign a time = .error failure ↔ s.sign b time = .error failure := by
  have ha := a.uri.authority_eq
  have hb := b.uri.authority_eq
  rw [← hsame.hostPort] at hb
  cases hhost : a.uri.hostPort with
  | none =>
      rw [hhost] at ha hb
      rw [sign_of_hostless ha, sign_of_hostless hb]
  | some hostPort =>
      rw [hhost] at ha hb
      rw [sign_of_host ha, sign_of_host hb]
      cases s.tokenValue with
      | error => simp only [Except.bind]
      | ok token => simp only [Except.bind, authorize_eq_error_iff]

/-! ## The fields of a signed request -/

theorem fields_of_sign (hsigned : s.sign request time = .ok signed) :
    ∃ authority host token v, request.uri.authority = some authority ∧
      host.bytes = Utf8.encode authority ∧ s.tokenValue = .ok token ∧
      signed.fields =
        (s.preparedFields request host token request.fields time).set .authorization v := by
  cases hauthority : request.uri.authority with
  | none =>
      rw [sign_of_hostless hauthority] at hsigned
      cases hsigned
  | some authority =>
      rw [sign_of_host hauthority] at hsigned
      cases htoken : s.tokenValue with
      | error =>
          rw [htoken] at hsigned
          cases hsigned
      | ok token =>
          rw [htoken, Except.bind] at hsigned
          obtain ⟨v, rfl⟩ := authorize_eq_ok hsigned
          exact ⟨authority, _, token, v, rfl, rfl, rfl, rfl⟩

theorem values_preparedFields_host {host : HeaderValue} {token : Option HeaderValue}
    (fields : Fields) :
    (s.preparedFields request host token fields time).values .host = [host] := by
  let later := (s.row host (dateValue time) (hashValue request) token).tail
  have hnames : later.map (·.1) =
      dateField :: (if s.contentField then [contentHashField] else []) ++
        (if token.isSome then [tokenField] else []) := by
    simp only [later, row]
    cases s.contentField <;> cases token <;> rfl
  have hrest : HeaderName.host ∉ later.map (·.1) := by
    rw [hnames]
    split <;> split <;> decide
  exact (Fields.values_setAll hrest).trans (Fields.values_set_self _ _ _)

/-- The host field of a signed request is the whole authority. -/
theorem host_of_sign (hsigned : s.sign request time = .ok signed) :
    ∃ hostPort host, request.uri.hostPort = some hostPort ∧
      signed.fields.values .host = [host] ∧
      host.bytes = Utf8.encode (request.uri.userInfo ++ hostPort) := by
  obtain ⟨authority, host, token, v, hauthority, hbytes, -, hfields⟩ := fields_of_sign hsigned
  rw [request.uri.authority_eq] at hauthority
  obtain ⟨hostPort, hhost, rfl⟩ := Option.map_eq_some_iff.1 hauthority
  refine ⟨hostPort, host, hhost, ?_, hbytes⟩
  rw [hfields, Fields.values_set_of_ne _ _ (by decide), values_preparedFields_host]

/-- No field but the host and the authorization depends on the user info. -/
theorem values_sign (hsame : a.SameButUser b) (hsigned : s.sign a time = .ok signed)
    (hother : s.sign b time = .ok other) {name : HeaderName} (hhost : name ≠ .host)
    (hauthorization : name ≠ .authorization) :
    signed.fields.values name = other.fields.values name := by
  obtain ⟨_, _, token, _, -, -, htoken, hfields⟩ := fields_of_sign hsigned
  obtain ⟨_, _, token', _, -, -, htoken', hfields'⟩ := fields_of_sign hother
  obtain rfl : token = token' := Except.ok.inj (htoken.symm.trans htoken')
  rw [hfields, hfields', Fields.values_set_of_ne _ _ hauthorization.symm,
    Fields.values_set_of_ne _ _ hauthorization.symm, ← hsame.fields]
  exact values_preparedFields hsame.body (fun heq => absurd heq hhost) (fun _ => rfl) rfl

/-! ## The authorization -/

/-- The text of the authorization up to the signature. -/
def authorizationFront (s : SigV4) (fields : Fields) (time : Instant) : Text :=
  algorithm ++ " Credential=".toList ++ s.credentials.accessKeyId
    ++ '/' :: s.scope (Stamp.day time)
    ++ ", SignedHeaders=".toList ++ Canonical.nameList fields
    ++ ", Signature=".toList

theorem authorization_of_sign (hsigned : s.sign request time = .ok signed) :
    ∃ v, signed.fields.values .authorization = [v] ∧ v.bytes =
      Utf8.encode (s.authorizationFront signed.fields time ++ s.signature signed time) := by
  rcases s.sign_cases request with ⟨-, failure, -, hfails⟩ | ⟨-, hsigns⟩
  · cases (hfails time).symm.trans hsigned
  · obtain ⟨made, hmade, hseals⟩ := hsigns time
    cases hmade.symm.trans hsigned
    obtain ⟨v, hvalues, hbytes, -⟩ := hseals.authorization
    exact ⟨v, hvalues, hbytes⟩

/-- The names that are signed do not depend on the user info. -/
theorem nameList_sign (hsame : a.SameButUser b) (hsigned : s.sign a time = .ok signed)
    (hother : s.sign b time = .ok other) :
    Canonical.nameList signed.fields = Canonical.nameList other.fields := by
  rw [Canonical.nameList, Canonical.nameList]
  congr 2
  refine (Canonical.signedNames_eq_iff _ _).2 fun name hname => ?_
  rw [Bool.eq_iff_iff, Fields.contains_eq_true_iff, Fields.contains_eq_true_iff]
  by_cases hhost : name = .host
  · obtain ⟨_, _, -, hvalues, -⟩ := host_of_sign hsigned
    obtain ⟨_, _, -, hvalues', -⟩ := host_of_sign hother
    rw [hhost, hvalues, hvalues']
    simp
  · have hauthorization : name ≠ .authorization := by
      rintro rfl
      cases hname
    rw [values_sign hsame hsigned hother hhost hauthorization]

theorem isBlank_authority {authority : Text} (hauthority : request.uri.authority = some authority) :
    ∀ c ∈ authority, isBlank c = false := by
  have hvalid := request.uri.authority_valid
  rw [hauthority, Option.getD_some, List.all_eq_true] at hvalid
  intro c hc
  have hascii := ascii_of_isVisibleChar (List.all_eq_true.1 (isVisible_authority hauthority) c hc)
  exact of_ascii (p := fun c => isAuthorityChar c = true → isBlank c = false)
    (by decide +kernel) hascii (hvalid c hc)

/-- What is signed says the whole authority. -/
theorem said_host_of_sign (hsigned : s.sign request time = .ok signed) :
    some (Canonical.said signed.fields .host) = request.uri.authority := by
  obtain ⟨hostPort, host, hhost, hvalues, hbytes⟩ := host_of_sign hsigned
  have hauthority := request.uri.authority_eq
  rw [hhost] at hauthority
  rw [hauthority, Canonical.said_of_value hvalues hbytes (isBlank_authority hauthority)]
  rfl

/-- **What user info does to a signature.**  Of two requests that are the same but for it, either
both are signed or both fail alike.  If they are signed, the host field is the user info and the
host, and the two authorizations are the same but for the signature of what was signed; all other
fields are the same.  What was signed is the same exactly if the user info is, and so are the
fields. -/
theorem sign_user_info (s : SigV4) (time : Instant) (hsame : a.SameButUser b) :
    (∀ failure, s.sign a time = .error failure ↔ s.sign b time = .error failure) ∧
      ∀ signed other, s.sign a time = .ok signed → s.sign b time = .ok other →
        (∀ name ∉ [.host, .authorization],
          signed.fields.values name = other.fields.values name) ∧
        (∃ hostPort host, a.uri.hostPort = some hostPort ∧ signed.fields.values .host = [host] ∧
          host.bytes = Utf8.encode (a.uri.userInfo ++ hostPort)) ∧
        (∃ front v w, signed.fields.values .authorization = [v] ∧
          other.fields.values .authorization = [w] ∧
          v.bytes = Utf8.encode (front ++ s.signature signed time) ∧
          w.bytes = Utf8.encode (front ++ s.signature other time)) ∧
        (Canonical.text signed (bodyHash signed) = Canonical.text other (bodyHash other) ↔
          a.uri.userInfo = b.uri.userInfo) ∧
        (signed.fields = other.fields ↔ a.uri.userInfo = b.uri.userInfo) := by
  refine ⟨fun failure => sign_eq_error_iff hsame, fun signed other hsigned hother => ?_⟩
  have hinfo (hsaid : Canonical.said signed.fields .host = Canonical.said other.fields .host) :
      a.uri.userInfo = b.uri.userInfo := by
    have hauthority := said_host_of_sign hsigned
    rw [hsaid, said_host_of_sign hother] at hauthority
    rw [Uri.userInfo, Uri.userInfo, hauthority]
  have hequal (hinfo : a.uri.userInfo = b.uri.userInfo) : signed = other := by
    obtain rfl := hsame.eq_iff.2 hinfo
    exact Except.ok.inj (hsigned.symm.trans hother)
  refine ⟨fun name hname => ?_, host_of_sign hsigned, ?_, ⟨fun htext => ?_, fun heq => ?_⟩,
    ⟨fun hfields => ?_, fun heq => ?_⟩⟩
  · simp only [List.mem_cons, List.not_mem_nil, or_false, not_or] at hname
    exact values_sign hsame hsigned hother hname.1 hname.2
  · obtain ⟨v, hv, hbytes⟩ := authorization_of_sign hsigned
    obtain ⟨w, hw, hbytes'⟩ := authorization_of_sign hother
    refine ⟨s.authorizationFront signed.fields time, v, w, hv, hw, hbytes, ?_⟩
    rw [hbytes', authorizationFront, authorizationFront, nameList_sign hsame hsigned hother]
  · exact hinfo (Canonical.said_of_text_eq htext rfl)
  · rw [hequal heq]
  · exact hinfo (by rw [hfields])
  · rw [hequal heq]

/-! ## A password in a URI -/

/-- A request for the root of an authority. -/
def rootRequest (authority : Text) (hvalid : authority.all isAuthorityChar = true) :
    Http.Request :=
  { method := .get
    uri := ⟨some "https".toList, some authority, ['/'], none, hvalid, by decide, by decide⟩
    fields := .empty
    body := none }

theorem sameButUser_rootRequest {authority other : Text}
    (hvalid : authority.all isAuthorityChar = true) (hother : other.all isAuthorityChar = true)
    (hhost : authority.rtakeWhile (· ≠ '@') = other.rtakeWhile (· ≠ '@')) :
    (rootRequest authority hvalid).SameButUser (rootRequest other hother) :=
  ⟨rfl, rfl, congrArg some hhost, rfl, rfl, rfl, rfl⟩

theorem exists_sign (s : SigV4) (request : Http.Request) (hcan : s.canSign request = true)
    (time : Instant) : ∃ signed, s.sign request time = .ok signed := by
  rcases s.sign_cases request with ⟨hnot, -⟩ | ⟨-, hsigns⟩
  · cases hnot.symm.trans hcan
  · obtain ⟨signed, hsigned, -⟩ := hsigns time
    exact ⟨signed, hsigned⟩

/-- A user with a password at an address with a port.  The date of signing is told alike, but what
is signed is not the same without the user. -/
theorem sign_user_info_password :
    let s : SigV4 := ⟨⟨"id".toList, "key".toList, none⟩, "local".toList, "items".toList, false⟩
    let a := rootRequest "user:p@ss@[::1]:8080".toList (by decide)
    let b := rootRequest "[::1]:8080".toList (by decide)
    a.SameButUser b ∧ ∃ signed other, s.sign a .epoch = .ok signed ∧ s.sign b .epoch = .ok other ∧
      signed.fields.values dateField = other.fields.values dateField ∧
      Canonical.text signed (bodyHash signed) ≠ Canonical.text other (bodyHash other) := by
  intro s a b
  have hsame : a.SameButUser b := sameButUser_rootRequest _ _ (by decide)
  obtain ⟨signed, hsigned⟩ := exists_sign s a (by decide) .epoch
  obtain ⟨other, hother⟩ := exists_sign s b (by decide) .epoch
  obtain ⟨-, hpair⟩ := sign_user_info s .epoch hsame
  obtain ⟨hvalues, -, -, htext, -⟩ := hpair signed other hsigned hother
  exact ⟨hsame, signed, other, hsigned, hother, hvalues dateField (by decide),
    mt htext.1 (by decide)⟩

/-- A password in the URI of a request is sent in the host field of the signed request, which
without it has the host alone. -/
theorem sign_discloses_password :
    let s : SigV4 := ⟨⟨"id".toList, "key".toList, none⟩, "local".toList, "items".toList, false⟩
    let a := rootRequest "user:password@localhost".toList (by decide)
    let b := rootRequest "localhost".toList (by decide)
    a.SameButUser b ∧ ∃ signed other, s.sign a .epoch = .ok signed ∧ s.sign b .epoch = .ok other ∧
      (signed.fields.values .host).map (·.bytes) =
        [Utf8.encode "user:password@localhost".toList] ∧
      (other.fields.values .host).map (·.bytes) = [Utf8.encode "localhost".toList] ∧
      signed.fields ≠ other.fields := by
  intro s a b
  obtain ⟨signed, hsigned⟩ := exists_sign s a (by decide) .epoch
  obtain ⟨other, hother⟩ := exists_sign s b (by decide) .epoch
  have hhost (request made : Http.Request) (hmade : s.sign request .epoch = .ok made) :
      (made.fields.values .host).map (·.bytes) =
        [Utf8.encode (request.uri.authority.getD [])] := by
    obtain ⟨hostPort, host, hhost, hvalues, hbytes⟩ := host_of_sign hmade
    rw [hvalues, List.map_singleton, hbytes, request.uri.authority_eq, hhost]
    rfl
  have hdisclosed := hhost a signed hsigned
  have hplain := hhost b other hother
  refine ⟨sameButUser_rootRequest _ _ (by decide), signed, other, hsigned, hother, hdisclosed,
    hplain, fun heq => ?_⟩
  rw [heq, hplain] at hdisclosed
  exact absurd hdisclosed (by decide)

end SigV4

end ServiceCall
