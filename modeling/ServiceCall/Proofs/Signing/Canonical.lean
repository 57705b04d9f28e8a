import ServiceCall.Http.Visible
import ServiceCall.Proofs.Http.Fields
import ServiceCall.Proofs.Text.Codes
import ServiceCall.Proofs.Text.Words
import ServiceCall.Signing.SigV4
import Mathlib.Data.List.Perm.Basic

/-!
# Canonical requests are unambiguous

Two requests have one canonical text exactly when they agree on everything that is signed.  The text
is a join of lines: method, path and query, one line for each signed name, an empty line, the names
and the hash of the body.  No part has a line end in it and no signed line is empty, so the lines
come back from the text; and in each line the parts come back in turn.
-/

namespace ServiceCall.Canonical

/-- What the values of a name say: each trimmed and with one space for every run of blanks, with
commas between them. -/
def said (fields : Fields) (name : HeaderName) : Text :=
  Text.join [','] ((fields.values name).map fun value =>
    Text.collapseRuns (Text.trim (Utf8.decodeLossy value.bytes)))

/-- Agreement of two requests on all that is signed: the pairs of the query count without their
order, and the fields without those that are never signed. -/
structure Agree (a b : Http.Request) : Prop where
  method : a.method = b.method
  path : path a.uri.path = path b.uri.path
  query : (Form.parse (a.uri.query.getD [])).Perm (Form.parse (b.uri.query.getD []))
  names : ∀ name, isUnsigned name = false → a.fields.contains name = b.fields.contains name
  said : ∀ name, isUnsigned name = false → said a.fields name = said b.fields name
  body : Sha256.hash (a.body.getD []) = Sha256.hash (b.body.getD [])

/-! ## The query -/

theorem pairLe_iff (a b : Text × Text) :
    pairLe a b = true ↔ Text.le b.1 a.1 = false ∨ a.1 = b.1 ∧ Text.le a.2 b.2 = true := by
  simp [pairLe, Text.le]

theorem pairLe_total (a b : Text × Text) : (pairLe a b || pairLe b a) = true := by
  have hfirst := Text.le_total a.1 b.1
  have hsecond := Text.le_total a.2 b.2
  rw [Bool.or_eq_true] at hfirst hsecond ⊢
  rw [pairLe_iff, pairLe_iff]
  cases hab : Text.le a.1 b.1 with
  | false => exact .inr (.inl rfl)
  | true =>
      cases hba : Text.le b.1 a.1 with
      | false => exact .inl (.inl rfl)
      | true =>
          have heq := Text.le_antisymm hab hba
          exact hsecond.imp (fun hle => .inr ⟨heq, hle⟩) fun hle => .inr ⟨heq.symm, hle⟩

theorem pairLe_trans (a b c : Text × Text) (hab : pairLe a b = true) (hbc : pairLe b c = true) :
    pairLe a c = true := by
  rw [pairLe_iff] at hab hbc ⊢
  rcases hab with hab | ⟨hab, hab2⟩
  · rcases hbc with hbc | ⟨hbc, -⟩
    · exact .inl (Text.not_le_trans hab hbc)
    · exact .inl (hbc ▸ hab)
  · rcases hbc with hbc | ⟨hbc, hbc2⟩
    · exact .inl (hab ▸ hbc)
    · exact .inr ⟨hab.trans hbc, Text.le_trans hab2 hbc2⟩

theorem pairLe_antisymm (a b : Text × Text) (hab : pairLe a b = true) (hba : pairLe b a = true) :
    a = b := by
  have hirrefl (s : Text) : Text.le s s ≠ false := by simpa using Text.le_total s s
  rw [pairLe_iff] at hab hba
  rcases hab with hab | ⟨hab, hab2⟩
  · rcases hba with hba | ⟨hba, -⟩
    · exact absurd (Text.not_le_trans hab hba) (hirrefl _)
    · exact absurd (hba ▸ hab) (hirrefl _)
  · rcases hba with hba | ⟨-, hba2⟩
    · exact absurd (hab ▸ hba) (hirrefl _)
    · exact Prod.ext hab (Text.le_antisymm hab2 hba2)

/-- Encoding and sorting keep how often each pair is there, and nothing of the order. -/
theorem pairs_eq_iff (p q : Text) : pairs p = pairs q ↔ (Form.parse p).Perm (Form.parse q) := by
  have hinjective : Function.Injective fun pair : Text × Text =>
      (encode pair.1, encode pair.2) := by
    intro a b heq
    rw [Prod.mk.injEq] at heq
    exact Prod.ext (encode_injective heq.1) (encode_injective heq.2)
  rw [pairs, pairs, Text.mergeSort_eq_iff pairLe_total pairLe_trans pairLe_antisymm]
  exact List.map_perm_map_iff hinjective

theorem not_mem_of_mem_pairs {c : Char} (hc : isEncodedChar c = false) {s : Text}
    {pair : Text × Text} (hpair : pair ∈ pairs s) : c ∉ pair.1 ∧ c ∉ pair.2 := by
  obtain ⟨plain, -, rfl⟩ := List.mem_map.1 (List.mem_mergeSort.1 hpair)
  have hencoded (t : Text) : c ∉ encode t := by
    intro hmem
    rw [isEncodedChar_of_mem hmem] at hc
    cases hc
  exact ⟨hencoded plain.1, hencoded plain.2⟩

theorem query_eq_iff (p q : Text) : query p = query q ↔ pairs p = pairs q := by
  refine ⟨fun heq => ?_, fun heq => by rw [query, query, heq]⟩
  have hpiece (s : Text) : ∀ piece ∈ (pairs s).map fun pair => pair.1 ++ '=' :: pair.2,
      '&' ∉ piece ∧ piece ≠ [] := by
    intro piece hmem
    obtain ⟨pair, hpair, rfl⟩ := List.mem_map.1 hmem
    obtain ⟨hname, hvalue⟩ := not_mem_of_mem_pairs (c := '&') (by decide) hpair
    exact ⟨by simp [hname, hvalue], List.append_ne_nil_of_right_ne_nil _ (List.cons_ne_nil _ _)⟩
  have hpieces := Text.join_injective_of_ne_nil (hpiece p) (hpiece q) heq
  have hsplit (s : Text) : ((pairs s).map fun pair => pair.1 ++ '=' :: pair.2).map
      (Text.splitOnce '=') = (pairs s).map some := by
    rw [List.map_map]
    apply List.map_congr_left
    intro pair hpair
    exact Text.splitOnce_append '=' _ _ (not_mem_of_mem_pairs (by decide) hpair).1
  have hsome := congrArg (List.map (Text.splitOnce '=')) hpieces
  rw [hsplit, hsplit] at hsome
  exact List.map_injective_iff.2 (fun _ _ => Option.some.inj) hsome

/-! ## The fields -/

theorem normalized_eq (value : HeaderValue) :
    normalized value = Text.collapseRuns (Text.trim (Utf8.decodeLossy value.bytes)) :=
  Text.join_words_eq _

/-- A signed line without its end. -/
def lineText (fields : Fields) (name : HeaderName) : Text :=
  name.text ++ ':' :: said fields name

theorem line_eq (fields : Fields) (name : HeaderName) :
    line fields name = lineText fields name ++ ['\n'] := by
  have hnormalized : normalized = fun value : HeaderValue =>
      Text.collapseRuns (Text.trim (Utf8.decodeLossy value.bytes)) := funext normalized_eq
  rw [line, lineText, said, hnormalized]

theorem not_mem_name {c : Char} (hc : isTokenChar c = false) (name : HeaderName) :
    c ∉ name.text := by
  intro hmem
  have hvalid := name.valid
  simp only [HeaderName.isName, Bool.and_eq_true, List.all_eq_true] at hvalid
  have htoken := (hvalid.1.2 c hmem).1
  rw [hc] at htoken
  cases htoken

theorem lineEnd_not_mem_said (fields : Fields) (name : HeaderName) :
    '\n' ∉ said fields name := by
  intro hmem
  rcases Text.mem_join hmem with hcomma | ⟨piece, hpiece, hmem⟩
  · exact absurd hcomma (by decide)
  · obtain ⟨value, -, rfl⟩ := List.mem_map.1 hpiece
    exact (Text.eq_space_of_mem_collapseRuns hmem).elim (by decide) (by decide)

theorem lineText_eq_iff (f g : Fields) (name : HeaderName) :
    lineText f name = lineText g name ↔ said f name = said g name := by
  rw [lineText, lineText, List.append_cancel_left_eq, List.cons.injEq]
  exact and_iff_right rfl

/-- The names that are signed are the same and say the same. -/
theorem signedNames_eq_iff (f g : Fields) : signedNames f = signedNames g ↔
    ∀ name, isUnsigned name = false → f.contains name = g.contains name := by
  simpa [signedNames] using Fields.filter_names_eq_iff (fun name => !isUnsigned name) f g

theorem mem_signedNames (fields : Fields) (name : HeaderName) :
    name ∈ signedNames fields ↔ fields.contains name = true ∧ isUnsigned name = false := by
  rw [signedNames, List.mem_filter, Fields.mem_names, Bool.not_eq_true']

theorem said_of_not_contains {fields : Fields} {name : HeaderName}
    (hnot : fields.contains name = false) : said fields name = [] := by
  have hvalues : fields.values name = [] := by
    by_contra hvalues
    rw [(fields.contains_eq_true_iff name).2 hvalues] at hnot
    cases hnot
  rw [said, hvalues]
  rfl

/-- The signed lines are the same exactly when the names are and say the same.  A name ends at the
first colon of its line. -/
theorem map_lineText_eq_iff (f g : Fields) :
    (signedNames f).map (lineText f) = (signedNames g).map (lineText g) ↔
      (∀ name, isUnsigned name = false → f.contains name = g.contains name) ∧
        ∀ name, isUnsigned name = false → said f name = said g name := by
  have hname (h : Fields) : ((signedNames h).map (lineText h)).map
      (fun line => (Text.splitOnce ':' line).map (·.1)) =
        (signedNames h).map fun name => some name.text := by
    rw [List.map_map]
    apply List.map_congr_left
    intro name _
    have hcolon := not_mem_name (c := ':') (by decide) name
    simp only [Function.comp_apply, lineText, Text.splitOnce_append ':' _ _ hcolon,
      Option.map_some]
  constructor
  · intro heq
    have hnames : signedNames f = signedNames g := by
      have hsome := congrArg (List.map fun line => (Text.splitOnce ':' line).map (·.1)) heq
      rw [hname, hname] at hsome
      apply List.map_injective_iff.2 _ hsome
      intro a b hab
      exact HeaderName.text_injective (Option.some.inj hab)
    have hcontains := (signedNames_eq_iff f g).1 hnames
    refine ⟨hcontains, fun name hsigned => ?_⟩
    cases hin : f.contains name with
    | true =>
        rw [← hnames, List.map_inj_left] at heq
        exact (lineText_eq_iff f g name).1 (heq name ((mem_signedNames f name).2 ⟨hin, hsigned⟩))
    | false =>
        rw [said_of_not_contains hin, said_of_not_contains (hcontains name hsigned ▸ hin)]
  · rintro ⟨hcontains, hsaid⟩
    rw [← (signedNames_eq_iff f g).2 hcontains]
    apply List.map_congr_left
    intro name hmem
    exact (lineText_eq_iff f g name).2 (hsaid name ((mem_signedNames f name).1 hmem).2)

/-! ## The whole -/

/-- The lines of a canonical text. -/
def parts (request : Http.Request) (hash : Text) : List Text :=
  [request.method.text, path request.uri.path, query (request.uri.query.getD [])]
    ++ (signedNames request.fields).map (lineText request.fields)
    ++ [[], nameList request.fields, hash]

theorem text_eq_join_parts (request : Http.Request) (hash : Text) :
    text request hash = Text.join ['\n'] (parts request hash) := by
  have hlines : lines request.fields =
      ((signedNames request.fields).map (lineText request.fields)).flatMap (· ++ ['\n']) := by
    rw [lines, List.flatMap_map]
    exact congrArg (List.flatMap · _) (funext (line_eq request.fields))
  rw [parts, Text.join_append _ (List.cons_ne_nil _ _), List.flatMap_append, ← hlines]
  simp [text, Text.join]

theorem lineEnd_not_mem_query (s : Text) : '\n' ∉ query s := by
  intro hmem
  rcases Text.mem_join hmem with hand | ⟨piece, hpiece, hmem⟩
  · exact absurd hand (by decide)
  · obtain ⟨pair, hpair, rfl⟩ := List.mem_map.1 hpiece
    obtain ⟨hname, hvalue⟩ := not_mem_of_mem_pairs (c := '\n') (by decide) hpair
    simp [hname, hvalue] at hmem

theorem lineEnd_not_mem_path (uri : Uri) : '\n' ∉ path uri.path := by
  intro hmem
  rw [path] at hmem
  split at hmem
  · exact absurd hmem (by decide)
  · exact absurd (List.all_eq_true.1 uri.path_valid _ hmem) (by decide)

theorem lineEnd_not_mem_method (method : Method) : '\n' ∉ method.text := by
  intro hmem
  have hvalid := method.valid
  rw [Bool.and_eq_true, List.all_eq_true] at hvalid
  exact absurd (hvalid.2 _ hmem) (by decide)

theorem lineEnd_not_mem_nameList (fields : Fields) : '\n' ∉ nameList fields := by
  intro hmem
  rcases Text.mem_join hmem with hsemicolon | ⟨piece, hpiece, hmem⟩
  · exact absurd hsemicolon (by decide)
  · obtain ⟨name, -, rfl⟩ := List.mem_map.1 hpiece
    exact not_mem_name (by decide) name hmem

theorem lineEnd_not_mem_parts {request : Http.Request} {hash : Text} (hhash : '\n' ∉ hash) :
    ∀ part ∈ parts request hash, '\n' ∉ part := by
  intro part hpart
  simp only [parts, List.mem_append, List.mem_cons, List.not_mem_nil, or_false,
    List.mem_map] at hpart
  rcases hpart with ((rfl | rfl | rfl) | ⟨name, -, rfl⟩) | rfl | rfl | rfl
  · exact lineEnd_not_mem_method request.method
  · exact lineEnd_not_mem_path request.uri
  · exact lineEnd_not_mem_query _
  · simp [lineText, not_mem_name (c := '\n') (by decide) name, lineEnd_not_mem_said]
  · exact List.not_mem_nil
  · exact lineEnd_not_mem_nameList request.fields
  · exact hhash

theorem parts_eq_iff (a b : Http.Request) (hash hash' : Text) : parts a hash = parts b hash' ↔
    a.method = b.method ∧ path a.uri.path = path b.uri.path ∧
      query (a.uri.query.getD []) = query (b.uri.query.getD []) ∧
      (signedNames a.fields).map (lineText a.fields) =
        (signedNames b.fields).map (lineText b.fields) ∧ hash = hash' := by
  constructor
  · intro heq
    obtain ⟨hfront, hback⟩ := List.append_inj' heq rfl
    obtain ⟨hhead, hlines⟩ := List.append_inj hfront rfl
    simp only [List.cons.injEq, and_true, true_and] at hhead hback
    have hmethod : a.method = b.method := by
      cases ha : a.method
      cases hb : b.method
      simp_all
    exact ⟨hmethod, hhead.2.1, hhead.2.2, hlines, hback.2⟩
  · rintro ⟨hmethod, hpath, hquery, hlines, rfl⟩
    have hcontains := ((map_lineText_eq_iff a.fields b.fields).1 hlines).1
    rw [parts, parts, nameList, nameList, hmethod, hpath, hquery, hlines,
      (signedNames_eq_iff _ _).2 hcontains]

theorem bodyHash_eq_iff (a b : Http.Request) : SigV4.bodyHash a = SigV4.bodyHash b ↔
    Sha256.hash (a.body.getD []) = Sha256.hash (b.body.getD []) := by
  refine ⟨fun heq => ?_, fun heq => by rw [SigV4.bodyHash, SigV4.bodyHash, heq]⟩
  have hdecoded := congrArg Hex.decode? heq
  rw [SigV4.bodyHash, SigV4.bodyHash, Hex.decode?_encode, Hex.decode?_encode] at hdecoded
  exact Option.some.inj hdecoded

theorem lineEnd_not_mem_bodyHash (request : Http.Request) : '\n' ∉ SigV4.bodyHash request := by
  intro hmem
  have hvisible := isVisible_hex (Sha256.hash (request.body.getD []))
  exact absurd (List.all_eq_true.1 hvisible _ hmem) (by decide)

/-- The canonical text tells two requests apart exactly when they differ in something that is
signed.  What is signed for a time is then the same as well, whoever signs it. -/
theorem text_eq_iff_agree (a b : Http.Request) :
    (text a (SigV4.bodyHash a) = text b (SigV4.bodyHash b) ↔ Agree a b) ∧
      (Agree a b → ∀ (s : SigV4) (time : Instant), s.signedText a time = s.signedText b time) := by
  have htext : text a (SigV4.bodyHash a) = text b (SigV4.bodyHash b) ↔ Agree a b := by
    rw [text_eq_join_parts, text_eq_join_parts]
    constructor
    · intro hjoin
      have hparts := Text.join_injective (by simp [parts]) (by simp [parts])
        (lineEnd_not_mem_parts (lineEnd_not_mem_bodyHash a))
        (lineEnd_not_mem_parts (lineEnd_not_mem_bodyHash b)) hjoin
      obtain ⟨hmethod, hpath, hquery, hlines, hhash⟩ := (parts_eq_iff a b _ _).1 hparts
      obtain ⟨hnames, hsaid⟩ := (map_lineText_eq_iff a.fields b.fields).1 hlines
      exact ⟨hmethod, hpath, (pairs_eq_iff _ _).1 ((query_eq_iff _ _).1 hquery), hnames, hsaid,
        (bodyHash_eq_iff a b).1 hhash⟩
    · intro hagree
      apply congrArg (Text.join ['\n'])
      exact (parts_eq_iff a b _ _).2 ⟨hagree.method, hagree.path,
        (query_eq_iff _ _).2 ((pairs_eq_iff _ _).2 hagree.query),
        (map_lineText_eq_iff _ _).2 ⟨hagree.names, hagree.said⟩,
        (bodyHash_eq_iff a b).2 hagree.body⟩
  refine ⟨htext, ?_⟩
  intro hagree s time
  rw [SigV4.signedText, SigV4.signedText, htext.2 hagree]

end ServiceCall.Canonical
