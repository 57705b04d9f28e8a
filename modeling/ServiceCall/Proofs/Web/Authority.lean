import Mathlib.Data.List.TakeWhile
import ServiceCall.Proofs.Http.Absolute
import ServiceCall.Proofs.Web.Address

/-!
# The authority of an address

An address that is read with a host is written as its scheme, two slashes, an authority and a tail.
None of the marks that end an authority stands in it, and the tail is empty or begins with one.  So
whoever reads the text finds scheme and authority as they were.
-/

namespace ServiceCall.Address

open Uri (Closing Enclosed IsScheme isPlainSchemeChar)

variable {a : Address} {scheme s host : Text}

/-- The port with its colon, when there is one. -/
def portText (a : Address) : Text :=
  match a.port with
  | some port => ':' :: Numeral.ofNat port
  | none => []

/-- What is known of an address that is read with a host. -/
structure Hosted (a : Address) (host : Text) : Prop where
  scheme : IsScheme a.scheme
  authority : a.hasAuthority = true
  host_eq : a.host = some host
  read : ∃ s, host? (isSpecial a.scheme) s = some host
  user : Enclosed a.userText
  path : ∃ segments, a.path = .segments segments

theorem enclosed_encodeIf {p : Char → Bool} (hp : ∀ c, Uri.endsAuthority c = true → p c = true)
    (s : Text) : Enclosed (Percent.encodeIf p s) :=
  Percent.forall_encodeIf (by decide) (by decide) fun c _ hkept =>
    Bool.eq_false_iff.2 fun hends => Bool.false_ne_true (hkept.symm.trans (hp c hends))

theorem encodesInUser_of_endsAuthority (c : Char) (hc : Uri.endsAuthority c = true) :
    encodesInUser c = true := by
  simp only [Uri.endsAuthority, Bool.or_eq_true, beq_iff_eq] at hc
  rcases hc with (rfl | rfl) | rfl <;> decide

theorem enclosed_user (s : Text) : Enclosed (user s).1 ∧ Enclosed (user s).2.1 := by
  rw [user]
  split
  · exact ⟨List.forall_mem_nil _, List.forall_mem_nil _⟩
  · exact ⟨enclosed_encodeIf encodesInUser_of_endsAuthority _,
      enclosed_encodeIf encodesInUser_of_endsAuthority _⟩

theorem enclosed_userText (hname : Enclosed a.username) (hpassword : Enclosed a.password) :
    Enclosed a.userText := by
  rw [userText]
  split
  · exact List.forall_mem_nil _
  · refine (hname.append ?_).append (List.forall_mem_singleton.2 (by decide))
    split
    · exact List.forall_mem_nil _
    · exact List.forall_mem_cons.2 ⟨by decide, hpassword⟩

theorem endsAuthority_of_isAlphanum {c : Char} (hc : c.isAlphanum = true) :
    Uri.endsAuthority c = false :=
  of_ascii (p := fun c => c.isAlphanum = true → Uri.endsAuthority c = false) (by decide)
    (ascii_of_isAlphanum hc) hc

theorem enclosed_portText (a : Address) : Enclosed a.portText := by
  rw [portText]
  split
  · refine List.forall_mem_cons.2 ⟨by decide, fun c hc => ?_⟩
    have hdigit := List.all_eq_true.1 (Numeral.ofNat_all_isDigit _) c hc
    exact endsAuthority_of_isAlphanum (Bool.or_eq_true_iff.2 (.inr hdigit))
  · exact List.forall_mem_nil _

theorem enclosed_host (hhost : host? (isSpecial scheme) s = some host) : Enclosed host := by
  rcases host?_characters hhost with ⟨inner, rfl, hinner⟩ | hplain
  · refine List.forall_mem_cons.2 ⟨by decide, fun c hc => ?_⟩
    rcases hinner c hc with halnum | rfl | rfl
    · exact endsAuthority_of_isAlphanum halnum
    · decide
    · decide
  · intro c hc
    have hkept := List.all_eq_true.1 hplain c hc
    simp only [Uri.endsAuthority, Bool.or_eq_false_iff, beq_eq_false_iff_ne]
    exact ⟨⟨ne_of_isHostChar (by decide) hkept, ne_of_isHostChar (by decide) hkept⟩,
      ne_of_isHostChar (by decide) hkept⟩

theorem pathAfterAuthority_segments (scheme s : Text) :
    ∃ segments, pathAfterAuthority scheme s = .segments segments := by
  unfold pathAfterAuthority
  split
  · split <;> exact ⟨_, rfl⟩
  · split <;> exact ⟨_, rfl⟩

theorem ascii_of_isPlainSchemeChar {c : Char} (hc : isPlainSchemeChar c = true) :
    c.toNat < 0x80 := by
  simp only [isPlainSchemeChar, Bool.or_eq_true, beq_iff_eq] at hc
  rcases hc with ((halnum | rfl) | rfl) | rfl
  · exact ascii_of_isAlphanum halnum
  all_goals decide

theorem isScheme_of_scheme? {rest : Text} (hscheme : scheme? s = some (scheme, rest)) :
    IsScheme scheme := by
  simp only [scheme?, Option.bind_eq_bind, Option.bind_eq_some_iff] at hscheme
  obtain ⟨⟨written, after⟩, -, first, hfirst, hscheme⟩ := hscheme
  split at hscheme
  · rename_i hchars
    cases hscheme
    have hwritten : ∀ c ∈ written, isPlainSchemeChar c = true := List.all_eq_true.1 hchars.2
    obtain ⟨others, rfl⟩ := List.head?_eq_some_iff.1 hfirst
    refine ⟨⟨first.toLower, Text.lower others, rfl, ?_⟩, ?_, ?_⟩
    · exact of_ascii (p := fun c => c.isAlpha = true → c.toLower.isAlpha = true) (by decide)
        (ascii_of_isPlainSchemeChar (hwritten first List.mem_cons_self)) hchars.1
    · exact Text.lower_lower (first :: others)
    · intro c hc
      obtain ⟨d, hd, rfl⟩ := List.mem_map.1 hc
      exact of_ascii (p := fun c => isPlainSchemeChar c = true → isPlainSchemeChar c.toLower = true)
        (by decide) (ascii_of_isPlainSchemeChar (hwritten d hd)) (hwritten d hd)
  · cases hscheme

theorem hosted_of_afterSlashes? (hscheme : IsScheme scheme)
    (hread : afterSlashes? scheme s = some a) (hhost : a.host = some host) : Hosted a host := by
  simp only [afterSlashes?, Option.bind_eq_bind, Option.bind_eq_some_iff] at hread
  obtain ⟨written, hwritten, hread⟩ := hread
  split at hread
  · cases hread
  obtain ⟨port, -, hread⟩ := Option.bind_eq_some_iff.1 hread
  cases hread
  obtain ⟨hfull, hhost⟩ := Option.ite_none_left_eq_some.1 hhost
  cases hhost
  exact
    { scheme := hscheme
      authority := rfl
      host_eq := if_neg hfull
      read := ⟨_, hwritten⟩
      user := enclosed_userText (enclosed_user _).1 (enclosed_user _).2
      path := pathAfterAuthority_segments .. }

theorem isScheme_file : IsScheme "file".toList :=
  ⟨⟨'f', "ile".toList, rfl, by decide⟩, by decide, List.all_eq_true.1 (by decide)⟩

theorem hosted_of_file? (hread : file? s = some a) (hhost : a.host = some host) :
    Hosted a host := by
  simp only [file?, Option.bind_eq_bind] at hread
  split at hread
  · cases hread
    cases hhost
  obtain ⟨written, hwritten, hread⟩ := Option.bind_eq_some_iff.1 hread
  cases hread
  obtain ⟨hfull, hhost⟩ := Option.ite_none_left_eq_some.1 hhost
  cases hhost
  obtain ⟨name, hname, hlocal⟩ := Option.map_eq_some_iff.1 hwritten
  have hsame : name = host := by
    split at hlocal
    · rw [← hlocal] at hfull
      exact absurd rfl hfull
    · exact hlocal
  exact
    { scheme := isScheme_file
      authority := rfl
      host_eq := if_neg hfull
      read := ⟨_, hsame ▸ hname⟩
      user := List.forall_mem_nil _
      path := ⟨_, rfl⟩ }

/-- An address that is read with a host. -/
theorem hosted_of_parse? (hread : parse? s = some a) (hhost : a.host = some host) :
    Hosted a host := by
  simp only [parse?, Option.bind_eq_bind, Option.bind_eq_some_iff] at hread
  obtain ⟨⟨scheme, rest⟩, hscheme, hread⟩ := hread
  split at hread
  · obtain ⟨⟨_, tail⟩, -, hread⟩ := Option.bind_eq_some_iff.1 hread
    exact hosted_of_file? hread hhost
  split at hread
  · exact hosted_of_afterSlashes? (isScheme_of_scheme? hscheme) hread hhost
  rw [ordinary?] at hread
  split at hread
  · exact hosted_of_afterSlashes? (isScheme_of_scheme? hscheme) hread hhost
  · cases hread
    cases hhost

/-! ## The text of an address -/

/-- What stands in the text of an address behind its authority. -/
def tailText (a : Address) : Text :=
  a.pathText
    ++ (match a.query with
      | some query => '?' :: query
      | none => [])
    ++ (match a.fragment with
      | some fragment => '#' :: fragment
      | none => [])

theorem text_eq (hauthority : a.hasAuthority = true) (hhost : a.host = some host) :
    a.text = a.scheme ++ "://".toList ++ (a.userText ++ host ++ a.portText ++ a.tailText) := by
  have hwritten : a.authorityText = '/' :: '/' :: (a.userText ++ host ++ a.portText) := by
    rw [authorityText, if_pos hauthority, hhost]
    rfl
  rw [text, hwritten, tailText]
  simp only [List.append_assoc, List.cons_append]
  rfl

theorem closing_tailText (hauthority : a.hasAuthority = true)
    (hpath : ∃ segments, a.path = .segments segments) : Closing a.tailText := by
  obtain ⟨segments, hpath⟩ := hpath
  have hwritten : a.pathText = segments.flatMap fun s => '/' :: s := by
    rw [pathText, hauthority, hpath]
    rfl
  rw [tailText, hwritten]
  cases segments with
  | nil =>
      cases a.query with
      | none =>
          cases a.fragment with
          | none => exact fun c hc => absurd hc (by simp)
          | some fragment => exact fun c hc => by cases hc; rfl
      | some query => exact fun c hc => by cases hc; rfl
  | cons segment others => exact fun c hc => by cases hc; rfl

/-- **Another host changes nothing else** in how an address is written: the scheme, the user and
the port stand around the host, and then comes a mark or the end. -/
theorem Hosted.text_withHost (hhosted : Hosted a host) (host' : Text) :
    ∃ tail, { a with host := some host' }.text =
        a.scheme ++ "://".toList ++ (a.userText ++ host' ++ a.portText ++ tail) ∧
      Closing tail :=
  ⟨_, text_eq hhosted.authority rfl, closing_tailText hhosted.authority hhosted.path⟩

/-! ## Addresses of plain names -/

theorem specialHost?_plain {name : Text} (hname : Domain.isPlainName name = true)
    (hfull : name ≠ []) :
    specialHost? name =
      if Ip.endsInNumber (Text.lower name) then
        (Ip.older? (Text.lower name)).map Ip.olderText
      else some (Text.lower name) := by
  have hchars : ∀ c ∈ name, isHostChar true c = true :=
    List.all_eq_true.1 (Bool.and_eq_true_iff.1 hname).1
  have hhead : name.head? ≠ some '[' := fun hhead =>
    absurd (hchars '[' (List.mem_of_head? hhead)) (by decide)
  have hvisible : Text.isVisible name = true :=
    List.all_eq_true.2 fun c hc => isVisibleChar_of_isHostChar (hchars c hc)
  have hsign : '%' ∉ name := fun hmem => absurd (hchars '%' hmem) (by decide)
  have hlower : ¬(Text.lower name).isEmpty = true := by simpa [Text.lower] using hfull
  rw [specialHost?, if_neg hhead]
  simp only [decode_visible hvisible hsign, Domain.toAscii?_plain hname, Option.bind_eq_bind,
    Option.bind_some, if_neg hlower]

theorem splitPort_name {name : Text} (hcolon : ':' ∉ name) (hbracket : '[' ∉ name) :
    splitPort false name = (name, none) := by
  induction name with
  | nil => rfl
  | cons c rest ih =>
      have hc : c ≠ ':' := (List.ne_of_not_mem_cons hcolon).symm
      have hopen : (c == '[') = false :=
        beq_eq_false_iff_ne.2 (List.ne_of_not_mem_cons hbracket).symm
      rw [splitPort, if_neg fun hand => hc hand.1, hopen, Bool.false_and, Bool.or_self,
        ih (List.not_mem_of_not_mem_cons hcolon) (List.not_mem_of_not_mem_cons hbracket)]

theorem user_name {name : Text} (hname : '@' ∉ name) : user name = ([], [], name) := by
  have hwhole : name.reverse.takeWhile (· ≠ '@') = name.reverse :=
    Text.takeWhile_of_not_mem fun hmem => hname (List.mem_reverse.1 hmem)
  have hnone : splitLast '@' name = none := by
    rw [splitLast, hwhole, List.length_reverse]
    exact if_neg (Nat.lt_irrefl _)
  rw [user, hnone]

/-- The address of a scheme and a host alone. -/
def ofHost (scheme host : Text) : Address :=
  { scheme, username := [], password := [], host := some host, hasAuthority := true, port := none
    path := .segments [[]], query := none, fragment := none }

theorem not_mem_of_isNameChar {name : Text} (hname : name.all Domain.isNameChar = true)
    {mark : Char} (hmark : Domain.isNameChar mark = false) : mark ∉ name := fun hmem =>
  Bool.false_ne_true (hmark.symm.trans (List.all_eq_true.1 hname mark hmem))

/-- Behind the slashes a name alone is the host. -/
theorem afterSlashes?_name {name : Text} (hspecial : isSpecial scheme = true)
    (hname : name.all Domain.isNameChar = true) (hhost : specialHost? name = some host)
    (hfull : host ≠ []) : afterSlashes? scheme name = some (ofHost scheme host) := by
  have hauthority : name.takeWhile (fun c => !endsAuthority true c) = name := by
    refine List.takeWhile_eq_self_iff.2 fun c hc => ?_
    have hkept := List.all_eq_true.1 hname c hc
    exact of_ascii (p := fun c => Domain.isNameChar c = true → (!endsAuthority true c) = true)
      (by decide) (of_decide_eq_true (Bool.and_eq_true_iff.1 hkept).1) hkept
  have hempty : ¬host.isEmpty = true := by simpa using hfull
  have hsign : '@' ∉ name := not_mem_of_isNameChar hname (by decide)
  have hcolon : ':' ∉ name := not_mem_of_isNameChar hname (by decide)
  have hbracket : '[' ∉ name := not_mem_of_isNameChar hname (by decide)
  simp only [afterSlashes?, hspecial, hauthority, user_name hsign, splitPort_name hcolon hbracket,
    host?, if_true, hhost, Option.bind_eq_bind, Option.bind_some, Bool.eq_false_iff.2 hempty,
    Bool.false_and, Bool.false_eq_true, if_false, List.drop_length]
  simp [port?, splitTail, Text.splitOnce, pathAfterAuthority, hspecial, encodeQuery, encodeFragment,
    ofHost]

/-- A special scheme, slashes and a name are the address of that name. -/
theorem parse?_name {s name : Text}
    (hread : (scheme? (withoutIgnored (trim s))).map (Prod.map id (List.dropWhile isSlash)) =
      some (scheme, name))
    (hfile : isFile scheme = false) (hspecial : isSpecial scheme = true)
    (hname : name.all Domain.isNameChar = true) (hhost : specialHost? name = some host)
    (hfull : host ≠ []) : parse? s = some (ofHost scheme host) := by
  obtain ⟨⟨first, rest⟩, hsplit, heq⟩ := Option.map_eq_some_iff.1 hread
  obtain ⟨rfl, hslashes⟩ : first = scheme ∧ rest.dropWhile isSlash = name := Prod.mk.inj heq
  simp only [parse?, hsplit, Option.bind_eq_bind, Option.bind_some, hfile, Bool.false_eq_true,
    if_false, hspecial, if_true, hslashes]
  exact afterSlashes?_name hspecial hname hhost hfull

theorem withHost?_name {name : Text} (hspecial : isSpecial a.scheme = true) (hfull : name ≠ [])
    (hname : name.all Domain.isNameChar = true) (hhost : specialHost? name = some host) :
    a.withHost? name = some { a with host := some host } := by
  have hhead : name.head? ≠ some '[' :=
    fun hhead => not_mem_of_isNameChar hname (by decide) (List.mem_of_head? hhead)
  have hcolon : Text.splitOnce ':' name = none :=
    (Text.splitOnce_eq_none_iff ':' name).2 (not_mem_of_isNameChar hname (by decide))
  rw [withHost?]
  simp only [hspecial, List.isEmpty_iff, hfull, false_and, if_false, hhead, hcolon, host?, if_true,
    hhost, Option.map_some]

end ServiceCall.Address
