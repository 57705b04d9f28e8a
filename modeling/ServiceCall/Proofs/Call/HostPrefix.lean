import ServiceCall.Proofs.Call.Build
import ServiceCall.Proofs.Text.Words
import ServiceCall.Proofs.Web.Authority

/-!
# Where a prefixed call goes

A prefix is put in front of the host of an endpoint and the whole is read as a host again.  Nothing
else of the endpoint changes on the way to the wire, and the host is the prefix and what was there,
in small letters or as written.  A special scheme takes a name whose last label is a number for an
address, though, and puts the address of that number in the place of the name.
-/

namespace ServiceCall

open Uri (Closing Enclosed)

theorem Uri.Closing.of_prefix {s t : Text} (ht : Closing t) (hstarts : s <+: t) : Closing s := by
  intro c hc
  obtain ⟨rest, rfl⟩ := hstarts
  exact ht c (by rw [List.head?_append, hc]; rfl)

theorem Uri.Closing.append_mark {s : Text} (hs : Closing s) {mark : Char}
    (hmark : endsAuthority mark = true) (rest : Text) : Closing (s ++ mark :: rest) := by
  cases s with
  | nil => exact fun c hc => by cases hc; exact hmark
  | cons d others => exact fun c hc => hs c hc

namespace Target

variable {front tail : Text}

theorem trimEnd_append {p : Char → Bool} (hfront : ∃ init c, front = init ++ [c] ∧ p c = false)
    (tail : Text) : Text.trimEnd p (front ++ tail) = front ++ Text.trimEnd p tail := by
  induction tail using List.reverseRecOn with
  | nil =>
      obtain ⟨init, c, rfl, hc⟩ := hfront
      rw [List.append_nil, Text.trimEnd_concat, hc, if_neg Bool.false_ne_true]
      exact (List.append_nil _).symm
  | append_singleton tail c ih =>
      rw [← List.append_assoc, Text.trimEnd_concat, Text.trimEnd_concat]
      split
      · exact ih
      · exact List.append_assoc ..

/-- A target goes on where its endpoint begins, up to a mark behind the authority. -/
theorem join_keeps_front (hfront : ∃ init c, front = init ++ [c] ∧ isSlash c = false)
    (htail : Closing tail) (path : Text) :
    ∃ rest, join (front ++ tail) path = front ++ rest ∧ Closing rest := by
  have htrimmed : Closing (Text.trimEnd isSlash tail) :=
    htail.of_prefix (List.rdropWhile_prefix isSlash tail)
  have hne : ¬(front ++ Text.trimEnd isSlash tail).isEmpty = true := by
    obtain ⟨init, c, rfl, -⟩ := hfront
    simp
  simp only [join, trimEnd_append hfront, if_neg hne]
  split
  · exact ⟨_, rfl, htrimmed⟩
  · exact ⟨_, List.append_assoc .., htrimmed.append_mark (by decide) _⟩

theorem addQuery_keeps_front (hfront : '?' ∉ front) (htail : Closing tail)
    (pairs : List (Text × Text)) :
    ∃ rest, addQuery (front ++ tail) pairs = front ++ rest ∧ Closing rest := by
  rw [addQuery]
  split
  · exact ⟨tail, rfl, htail⟩
  · rw [Text.splitOnce_append_left hfront]
    cases hsplit : Text.splitOnce '?' tail with
    | none => exact ⟨_, List.append_assoc .., htail.append_mark (by decide) _⟩
    | some parts =>
        obtain ⟨before, query⟩ := parts
        obtain ⟨htail', -⟩ := Text.splitOnce_eq_some '?' hsplit
        refine ⟨_, List.append_assoc .., Closing.append_mark ?_ (by decide) _⟩
        exact htail.of_prefix ⟨_, htail'.symm⟩

end Target

namespace HostPrefix

variable {label endpoint : Text}

theorem expand_eq_ok_iff {template : Text} {field : Text → Option Text} :
    expand template field = .ok label ↔
      substitute template field template = .ok label ∧ isLabelText label = true := by
  constructor
  · intro hok
    rw [expand] at hok
    split at hok
    · cases hok
    · next expanded hexpanded =>
        split at hok
        · next hallowed =>
            obtain rfl := Except.ok.inj hok
            exact ⟨hexpanded, hallowed⟩
        · cases hok
  · rintro ⟨hexpanded, hallowed⟩
    simp only [expand, hexpanded, hallowed, if_true]

theorem isLabelText_of_expand {template : Text} {field : Text → Option Text}
    (hexpand : expand template field = .ok label) : label.all isLabelChar = true :=
  (expand_eq_ok_iff.1 hexpand).2

theorem prepend_parts {base : Text} (hfull : label ≠ [])
    (hprepend : prepend label endpoint = .ok base) :
    ∃ address host prefixed, Address.parse? endpoint = some address ∧ address.host = some host ∧
      address.withHost? (label ++ host) = some prefixed ∧ base = prefixed.text := by
  rw [prepend, if_neg (by simpa using hfull)] at hprepend
  split at hprepend
  · cases hprepend
  rename_i address haddress
  split at hprepend
  · cases hprepend
  rename_i host hhost
  split at hprepend
  · cases hprepend
  rename_i prefixed hprefixed
  exact ⟨address, host, prefixed, haddress, hhost, hprefixed, (Except.ok.inj hprepend).symm⟩

/-- A prefix is put in front of a host if the whole is a host. -/
theorem prepend_eq_ok {scheme host host' : Text} (hfull : label ≠ [])
    (hspecial : Address.isSpecial scheme = true)
    (hendpoint : Address.parse? endpoint = some (.ofHost scheme host))
    (hname : (label ++ host).all Domain.isNameChar = true)
    (hhost : Address.specialHost? (label ++ host) = some host') :
    prepend label endpoint = .ok (Address.ofHost scheme host').text := by
  have hset : (Address.ofHost scheme host).withHost? (label ++ host) =
      some (.ofHost scheme host') :=
    Address.withHost?_name hspecial (List.append_ne_nil_of_left_ne_nil hfull host) hname hhost
  rw [prepend, if_neg (by simpa using hfull), hendpoint]
  simp only [show (Address.ofHost scheme host).host = some host from rfl, hset]

end HostPrefix

namespace Call

theorem endpoint_prefixed {c : Call} {defaults : Defaults} {endpoint template label : Text}
    (hinjected : defaults.hostPrefixInjection = true) (htemplate : c.hostPrefix = some template)
    (hexpand : HostPrefix.expand template c.prefixField? = .ok label) :
    c.endpoint defaults endpoint = HostPrefix.prepend label endpoint := by
  rw [Call.endpoint, htemplate]
  dsimp only
  rw [if_pos hinjected, hexpand]
  rfl

/-- What a call's target begins with is where its request goes. -/
theorem uri_of_front {c : Call} {scheme authority tail : Text} {u : Uri}
    (hscheme : Uri.IsScheme scheme) (hauthority : Enclosed authority) (hfull : authority ≠ [])
    (htail : Closing tail)
    (hread : Uri.parse? (c.target (scheme ++ "://".toList ++ (authority ++ tail))) = some u) :
    u.scheme = some scheme ∧ u.authority = some authority := by
  have hlast : ∃ init last, scheme ++ "://".toList ++ authority = init ++ [last] ∧
      Target.isSlash last = false := by
    obtain ⟨init, last, rfl⟩ := (List.eq_nil_or_concat' authority).resolve_left hfull
    refine ⟨_, last, (List.append_assoc ..).symm, Bool.eq_false_iff.2 fun hslash => ?_⟩
    have hends := hauthority last (List.mem_append_right _ (List.mem_singleton_self last))
    rw [eq_of_beq hslash] at hends
    exact absurd hends (by decide)
  have hquestion : '?' ∉ scheme ++ "://".toList ++ authority := by
    simp only [List.mem_append, not_or]
    exact ⟨⟨fun hmem => absurd (hscheme.characters '?' hmem) (by decide), by decide⟩,
      fun hmem => absurd (hauthority '?' hmem) (by decide)⟩
  rw [target, ← List.append_assoc] at hread
  obtain ⟨middle, hjoin, hmiddle⟩ := Target.join_keeps_front hlast htail c.path
  obtain ⟨rest, hquery, hrest⟩ := Target.addQuery_keeps_front hquestion hmiddle c.query
  rw [hjoin, hquery, List.append_assoc] at hread
  exact Uri.parse?_absolute hscheme hauthority hrest hread

/-- **A prefix goes in front of the host and changes nothing else**: scheme, user and port on the
wire are those of the endpoint, and the host is the prefix and the host of the endpoint, but for the
case of letters.  If the scheme is special and the last label of that name is a number, the host is
the address that the name stands for; no prefix makes such a name of a host with a point in it that
is no number itself. -/
theorem build_prefixed {c : Call} {defaults : Defaults} {endpoint template label : Text}
    {id : InvocationId} {info : AttemptInfo} {request : Http.Request}
    (hbuild : c.build defaults endpoint id info = .ok request)
    (hinjected : defaults.hostPrefixInjection = true) (htemplate : c.hostPrefix = some template)
    (hexpand : HostPrefix.expand template c.prefixField? = .ok label) (hfull : label ≠ []) :
    ∃ address host host', Address.parse? endpoint = some address ∧ address.host = some host ∧
      request.uri.scheme = some address.scheme ∧
      request.uri.authority = some (address.userText ++ host' ++ address.portText) ∧
      (if Address.isSpecial address.scheme && Ip.endsInNumber (Text.lower (label ++ host)) then
        ∃ n, Ip.older? (Text.lower (label ++ host)) = some n ∧ host' = Ip.olderText n
      else Text.lower host' = Text.lower (label ++ host)) ∧
      ('.' ∈ host.dropLast → Ip.endsInNumber host = false →
        Text.lower host' = Text.lower (label ++ host)) := by
  obtain ⟨base, uri, hbase, huri, rfl⟩ := build_parts hbuild
  rw [endpoint_prefixed hinjected htemplate hexpand] at hbase
  obtain ⟨address, host, prefixed, haddress, hhost, hset, rfl⟩ :=
    HostPrefix.prepend_parts hfull hbase
  have hhosted := Address.hosted_of_parse? haddress hhost
  obtain ⟨read, hread⟩ := hhosted.read
  obtain ⟨hchars, host', hhost', rfl⟩ := Address.withHost?_prefixed hread
    (HostPrefix.isLabelText_of_expand hexpand) hfull hset
  obtain ⟨tail, htext, htail⟩ := hhosted.text_withHost host'
  have hplain := Address.host?_plain hchars hhost'
  have hwritten : host' ≠ [] := by
    rintro rfl
    split at hplain
    · obtain ⟨n, -, hnumber⟩ := hplain
      exact Ip.olderText_ne_nil n hnumber.symm
    · have hlength := congrArg List.length hplain
      simp only [Text.length_lower, List.length_append, List.length_nil] at hlength
      exact hfull (List.length_eq_zero_iff.1 (by omega))
  have hauthority : Enclosed (address.userText ++ host' ++ address.portText) :=
    (hhosted.user.append (Address.enclosed_host hhost')).append (Address.enclosed_portText address)
  rw [htext] at huri
  obtain ⟨hscheme, hsent⟩ := uri_of_front hhosted.scheme hauthority (by simp [hwritten]) htail huri
  refine ⟨address, host, host', haddress, hhost, hscheme, hsent, hplain, fun hpoint hname => ?_⟩
  rwa [Ip.endsInNumber_prefixed label hpoint, hname, Bool.and_false,
    if_neg Bool.false_ne_true] at hplain

/-- A call with a template for its host and the field of an account. -/
def ofAccount (template account : Text) : Call :=
  ((Call.new .get "/jobs".toList).withHostPrefix template).withPrefixField
    "AccountId".toList account

theorem eq_ok_of_toOption {α : Type} {x : Except Failure α} {a : α} (hx : x.toOption = some a) :
    x = .ok a := by
  cases x with
  | error => cases hx
  | ok => exact congrArg Except.ok (Option.some.inj hx)

/-- The prefix of an account goes in front of the name of a service. -/
theorem build_prefixed_account :
    let c := ofAccount "\x7bAccountId\x7d.control.".toList "123456789012".toList
    ∃ request,
      c.build .standard "https://service.example.com".toList .nil (.first 1) = .ok request ∧
        request.uri.authority.map Text.lower =
          some "123456789012.control.service.example.com".toList := by
  intro c
  have hhost : Address.specialHost? "service.example.com".toList =
      some "service.example.com".toList := by
    rw [Address.specialHost?_plain (by decide) (by decide)]
    decide
  have hprefixed : Address.specialHost? "123456789012.control.service.example.com".toList =
      some "123456789012.control.service.example.com".toList := by
    rw [Address.specialHost?_plain (by decide) (by decide)]
    decide
  have hendpoint : Address.parse? "https://service.example.com".toList =
      some (.ofHost "https".toList "service.example.com".toList) :=
    Address.parse?_name (by decide) (by decide) (by decide) (by decide) hhost (by decide)
  have hexpand : HostPrefix.expand "\x7bAccountId\x7d.control.".toList c.prefixField? =
      .ok "123456789012.control.".toList :=
    eq_ok_of_toOption (by decide +kernel)
  have hbase : c.endpoint .standard "https://service.example.com".toList =
      .ok (Address.ofHost "https".toList "123456789012.control.service.example.com".toList).text :=
    (endpoint_prefixed rfl rfl hexpand).trans
      (HostPrefix.prepend_eq_ok (by decide) (by decide) hendpoint (by decide) hprefixed)
  obtain ⟨uri, huri⟩ : ∃ uri, Uri.parse? (c.target (Address.ofHost "https".toList
      "123456789012.control.service.example.com".toList).text) = some uri :=
    Option.isSome_iff_exists.1 (by decide +kernel)
  have hbuild : c.build .standard "https://service.example.com".toList .nil (.first 1) = .ok _ :=
    build_eq_ok hbase huri
  obtain ⟨address, host, host', haddress, hown, -, hsent, hplain, -⟩ :=
    build_prefixed hbuild rfl rfl hexpand (by decide)
  cases haddress.symm.trans hendpoint
  cases hown
  rw [if_neg (by decide)] at hplain
  have hauthority : uri.authority = some host' := by
    rw [hsent]
    simp [Address.userText, Address.portText, Address.ofHost]
  refine ⟨_, hbuild, ?_⟩
  rw [hauthority, Option.map_some, hplain]
  decide

/-- A digit in front of a numeric host makes another number of it, and a request for one address
goes to a different one. -/
theorem digit_moves_address :
    let c := ofAccount "\x7bAccountId\x7d".toList "0".toList
    HostPrefix.expand "\x7bAccountId\x7d".toList c.prefixField? = .ok "0".toList ∧
      ∃ address request, Address.parse? "http://10.0.0.1".toList = some address ∧
        address.host = some "10.0.0.1".toList ∧
        c.build .standard "http://10.0.0.1".toList .nil (.first 1) = .ok request ∧
        request.uri.authority = some "8.0.0.1".toList ∧
        Text.lower "8.0.0.1".toList ≠ Text.lower ("0".toList ++ "10.0.0.1".toList) ∧
        ¬"10.0.0.1".toList <:+ "8.0.0.1".toList := by
  intro c
  have hhost : Address.specialHost? "10.0.0.1".toList = some "10.0.0.1".toList := by
    rw [Address.specialHost?_plain (by decide) (by decide)]
    decide
  have hprefixed : Address.specialHost? "010.0.0.1".toList = some "8.0.0.1".toList := by
    rw [Address.specialHost?_plain (by decide) (by decide)]
    decide
  have hendpoint : Address.parse? "http://10.0.0.1".toList =
      some (.ofHost "http".toList "10.0.0.1".toList) :=
    Address.parse?_name (by decide) (by decide) (by decide) (by decide) hhost (by decide)
  have hexpand : HostPrefix.expand "\x7bAccountId\x7d".toList c.prefixField? = .ok "0".toList :=
    eq_ok_of_toOption (by decide +kernel)
  have hbase : c.endpoint .standard "http://10.0.0.1".toList =
      .ok (Address.ofHost "http".toList "8.0.0.1".toList).text :=
    (endpoint_prefixed rfl rfl hexpand).trans
      (HostPrefix.prepend_eq_ok (by decide) (by decide) hendpoint (by decide) hprefixed)
  obtain ⟨uri, huri, hauthority⟩ := Option.map_eq_some_iff.1
    (show (Uri.parse? (c.target (Address.ofHost "http".toList "8.0.0.1".toList).text)).map
      (·.authority) = some (some "8.0.0.1".toList) by decide +kernel)
  exact ⟨hexpand, _, _, hendpoint, rfl, build_eq_ok hbase huri, hauthority, by decide, by decide⟩

end Call

end ServiceCall
