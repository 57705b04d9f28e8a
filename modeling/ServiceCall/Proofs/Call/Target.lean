import ServiceCall.Proofs.Call.Build
import ServiceCall.Proofs.Http.Uri
import ServiceCall.Proofs.Web.Form

/-!
# The query pairs of a call

The pairs that a call asks for stand in the query of its request, after the pairs of the query that
its path has already.  A number sign in the path is the one thing that a URI takes for a mark and a
path does not: before the query it cuts all pairs off, and in a query to which nothing is added it
cuts off the rest.

Before any URI is read nothing is lost: the text with the pairs added has them all, after those of
the path.
-/

namespace ServiceCall

/-- The text of a path up to its first question mark. -/
def Target.head (path : Text) : Text := path.takeWhile (· ≠ '?')

/-- The query that stands in a path already. -/
def Target.existing (path : Text) : Text := ((Text.splitOnce '?' path).map Prod.snd).getD []

namespace Target

open Uri (Unmarked)

theorem head_free (target : Text) : '?' ∉ head target :=
  fun hmem => of_decide_eq_true (List.all_eq_true.1 List.all_takeWhile '?' hmem) rfl

/-- A text without a question mark is all head; otherwise head and query are around the first. -/
theorem head_existing (target : Text) :
    (Text.splitOnce '?' target = none ∧ head target = target ∧ existing target = []) ∨
      (Text.splitOnce '?' target = some (head target, existing target) ∧
        head target ++ '?' :: existing target = target) := by
  cases hsplit : Text.splitOnce '?' target with
  | none =>
      have hfree := (Text.splitOnce_eq_none_iff '?' target).1 hsplit
      exact .inl ⟨rfl, Text.takeWhile_of_not_mem hfree, by rw [existing, hsplit]; rfl⟩
  | some parts =>
      obtain ⟨htarget, hfree⟩ := Text.splitOnce_eq_some '?' hsplit
      have hhead : head target = parts.1 := by rw [head, htarget, Text.takeWhile_mark hfree]
      have hexisting : existing target = parts.2 := by rw [existing, hsplit]; rfl
      rw [hhead, hexisting]
      exact .inr ⟨rfl, htarget.symm⟩

theorem head_append {front : Text} (hfront : '?' ∉ front) (rest : Text) :
    head (front ++ rest) = front ++ head rest :=
  Text.takeWhile_append_left hfront rest

theorem existing_append {front : Text} (hfront : '?' ∉ front) (rest : Text) :
    existing (front ++ rest) = existing rest := by
  rw [existing, existing, Text.splitOnce_append_left hfront, Option.map_map]
  rfl

/-- Joining changes what stands before the marks only. -/
theorem join_front {base : Text} (hbase : Unmarked base) (path : Text) :
    ∃ front slashes rest, join base path = front ++ rest ∧ path = slashes ++ rest ∧
      Unmarked front ∧ Unmarked slashes := by
  have hslashes : Unmarked (path.takeWhile isSlash) :=
    .of_all List.all_takeWhile (by decide) (by decide)
  have htrimmed : Unmarked (Text.trimEnd isSlash base) := by
    have hsub : (Text.trimEnd isSlash base).Sublist base := by
      simpa [Text.trimEnd] using (List.dropWhile_sublist isSlash (l := base.reverse)).reverse
    exact ⟨fun hmem => hbase.1 (hsub.subset hmem), fun hmem => hbase.2 (hsub.subset hmem)⟩
  have hjoin : ∃ front, join base path = front ++ path.dropWhile isSlash ∧ Unmarked front := by
    simp only [join, Text.trimStart, List.isEmpty_iff]
    split
    · exact ⟨[], rfl, List.not_mem_nil, List.not_mem_nil⟩
    · split
      · rename_i hempty
        exact ⟨_, by rw [hempty, List.append_nil], htrimmed⟩
      · refine ⟨Text.trimEnd isSlash base ++ ['/'], by simp, htrimmed.append ?_⟩
        exact ⟨by decide, by decide⟩
  obtain ⟨front, hjoin, hfront⟩ := hjoin
  exact ⟨front, _, _, hjoin, List.takeWhile_append_dropWhile.symm, hfront, hslashes⟩

/-- The head and the query of a path are those of its target, but for text without a mark. -/
theorem number_mem_head_join {base : Text} (hbase : Unmarked base) (path : Text) :
    '#' ∈ head (join base path) ↔ '#' ∈ head path := by
  obtain ⟨front, slashes, rest, hjoin, hpath, hfront, hslashes⟩ := join_front hbase path
  rw [hjoin, hpath, head_append hfront.1, head_append hslashes.1]
  simp only [List.mem_append, hfront.2, hslashes.2, false_or]

theorem existing_join {base : Text} (hbase : Unmarked base) (path : Text) :
    existing (join base path) = existing path := by
  obtain ⟨front, slashes, rest, hjoin, hpath, hfront, hslashes⟩ := join_front hbase path
  rw [hjoin, hpath, existing_append hfront.1, existing_append hslashes.1]

theorem addQuery_of_ne_nil {pairs : List (Text × Text)} (target : Text) (hpairs : pairs ≠ []) :
    addQuery target pairs =
      head target ++ '?' :: Form.serialize (Form.parse (existing target) ++ pairs) := by
  rw [addQuery, if_neg (by simpa using hpairs)]
  rcases head_existing target with ⟨hsplit, hwhole, hnone⟩ | ⟨hsplit, -⟩
  · rw [hsplit, hwhole, hnone]
    rfl
  · rw [hsplit]

/-- Without a number sign in the head, pairs that are added go into the query, behind those that
are there. -/
theorem splitQuery_addQuery {target : Text} {pairs : List (Text × Text)} (hpairs : pairs ≠ [])
    (hhead : '#' ∉ head target) :
    (Uri.splitQuery (addQuery target pairs)).2 =
      some (Form.serialize (Form.parse (existing target) ++ pairs)) := by
  have hfree := Form.not_mem_serialize (c := '#') (by decide) (by decide) (by decide)
    (Form.parse (existing target) ++ pairs)
  rw [addQuery_of_ne_nil target hpairs, Uri.splitQuery_question ⟨head_free target, hhead⟩,
    Text.takeWhile_of_not_mem hfree]

/-- A query to which nothing is added ends at its first number sign. -/
theorem splitQuery_kept {target : Text} (hhead : '#' ∉ head target) :
    (Uri.splitQuery target).2.getD [] = (existing target).takeWhile (· ≠ '#') := by
  have hunmarked : Unmarked (head target) := ⟨head_free target, hhead⟩
  rcases head_existing target with ⟨-, hwhole, hnone⟩ | ⟨-, htarget⟩
  · rw [hwhole] at hunmarked
    rw [Uri.splitQuery_unmarked hunmarked, hnone]
    rfl
  · have hquery := Uri.splitQuery_question hunmarked (existing target)
    rw [htarget] at hquery
    rw [hquery]
    rfl

/-- A number sign in the head cuts off every pair. -/
theorem splitQuery_lost {target : Text} (hhead : '#' ∈ head target)
    (pairs : List (Text × Text)) : (Uri.splitQuery (addQuery target pairs)).2 = none := by
  have hfront : ∃ rest, addQuery target pairs = head target ++ rest := by
    rcases head_existing target with ⟨hsplit, hwhole, -⟩ | ⟨hsplit, htarget⟩
    · rw [addQuery, hsplit, hwhole]
      split
      · exact ⟨[], (List.append_nil target).symm⟩
      · exact ⟨_, rfl⟩
    · rw [addQuery, hsplit]
      split
      · exact ⟨_, htarget.symm⟩
      · exact ⟨_, rfl⟩
  obtain ⟨rest, hrest⟩ := hfront
  rw [hrest, Uri.splitQuery_number (head_free target) hhead]

/-! ## Adding and reading back -/

theorem head_question {front : Text} (hfront : '?' ∉ front) (query : Text) :
    head (front ++ '?' :: query) = front :=
  Text.takeWhile_mark hfront query

theorem existing_question {front : Text} (hfront : '?' ∉ front) (query : Text) :
    existing (front ++ '?' :: query) = query := by
  rw [existing, Text.splitOnce_append '?' front query hfront]
  rfl

/-- Pairs that are added later stand behind those added before. -/
theorem addQuery_addQuery (target : Text) (pairs more : List (Text × Text)) :
    addQuery (addQuery target pairs) more = addQuery target (pairs ++ more) := by
  by_cases hpairs : pairs = []
  · subst hpairs
    rfl
  by_cases hmore : more = []
  · rw [hmore, List.append_nil]
    rfl
  rw [addQuery_of_ne_nil _ hmore, addQuery_of_ne_nil target hpairs,
    addQuery_of_ne_nil target (List.append_ne_nil_of_left_ne_nil hpairs more),
    head_question (head_free target), existing_question (head_free target), Form.parse_serialize,
    List.append_assoc]

/-- **Adding pairs loses nothing.**  Without pairs a path is kept as it is.  Otherwise what stands
in front of its first question mark is kept, the next question mark is the first one, and what
follows it reads as the pairs that the path had and then those that are added.  Two lists that are
added one after the other give the same text, and so the same pairs, as both added at once. -/
theorem addQuery_lossless (path : Text) (pairs more : List (Text × Text)) :
    addQuery path [] = path ∧
      (pairs ≠ [] → '?' ∉ head path ∧ ∃ query, addQuery path pairs = head path ++ '?' :: query ∧
        Form.parse query = Form.parse (existing path) ++ pairs) ∧
      addQuery (addQuery path pairs) more = addQuery path (pairs ++ more) := by
  refine ⟨rfl, fun hpairs => ?_, addQuery_addQuery path pairs more⟩
  exact ⟨head_free path, _, addQuery_of_ne_nil path hpairs, Form.parse_serialize _⟩

/-- A query with a byte that is no text of its own is read, and a pair with marks is added to it. -/
theorem addQuery_lossless_marked :
    let pairs := [("a b".toList, "c&d=#?é".toList)]
    pairs ≠ [] ∧ ∃ query,
      addQuery "/items?x=%FF&&y".toList pairs = "/items".toList ++ '?' :: query ∧
        Form.parse query =
          [("x".toList, "\uFFFD".toList), ("y".toList, []), ("a b".toList, "c&d=#?é".toList)] := by
  intro pairs
  have hpairs : pairs ≠ [] := List.cons_ne_nil _ _
  have hexisting : Form.parse (existing "/items?x=%FF&&y".toList) =
      [("x".toList, "\uFFFD".toList), ("y".toList, [])] := by
    decide +kernel
  obtain ⟨-, hadded, -⟩ := addQuery_lossless "/items?x=%FF&&y".toList pairs []
  obtain ⟨-, query, hquery, hparse⟩ := hadded hpairs
  rw [hexisting] at hparse
  exact ⟨hpairs, query, hquery, hparse⟩

end Target

namespace Call

/-- The URI of a built request is read from the target of the call. -/
theorem uri_of_build {c : Call} {defaults : Defaults} {endpoint : Text} {id : InvocationId}
    {info : AttemptInfo} {request : Http.Request}
    (hbuild : c.build defaults endpoint id info = .ok request)
    (hunprefixed : c.hostPrefix = none ∨ defaults.hostPrefixInjection = false) :
    Uri.parse? (c.target endpoint) = some request.uri := by
  obtain ⟨base, uri, hbase, huri, rfl⟩ := build_parts hbuild
  cases hbase.symm.trans (endpoint_of_unprefixed hunprefixed)
  exact huri

/-- **No query pair is lost, altered or moved**, unless the path has a number sign where it counts:
the query of a built request reads as the pairs of the path and then those of the call.  A number
sign in front of the query loses all of them, and one in the query loses what follows it in the
path if the call adds none. -/
theorem build_query {c : Call} {defaults : Defaults} {endpoint : Text} {id : InvocationId}
    {info : AttemptInfo} {request : Http.Request}
    (hbuild : c.build defaults endpoint id info = .ok request)
    (hunprefixed : c.hostPrefix = none ∨ defaults.hostPrefixInjection = false)
    (hendpoint : '?' ∉ endpoint ∧ '#' ∉ endpoint) :
    let sent := Form.parse (request.uri.query.getD [])
    ('#' ∉ Target.head c.path → (c.query = [] → '#' ∉ Target.existing c.path) →
        sent = Form.parse (Target.existing c.path) ++ c.query) ∧
      ('#' ∈ Target.head c.path → sent = []) ∧
      ('#' ∉ Target.head c.path → c.query = [] →
        sent = Form.parse ((Target.existing c.path).takeWhile (· ≠ '#'))) := by
  have hquery : request.uri.query =
      (Uri.splitQuery (Target.addQuery (Target.join endpoint c.path) c.query)).2 :=
    Uri.parse?_query (uri_of_build hbuild hunprefixed)
  have hexisting := Target.existing_join hendpoint c.path
  have hkept (hhead : '#' ∉ Target.head c.path) (hnone : c.query = []) :
      request.uri.query.getD [] = (Target.existing c.path).takeWhile (· ≠ '#') := by
    rw [← Target.number_mem_head_join hendpoint] at hhead
    rw [hquery, hnone, ← hexisting]
    exact Target.splitQuery_kept hhead
  refine ⟨fun hhead hfree => ?_, fun hhead => ?_, fun hhead hnone => ?_⟩
  · by_cases hnone : c.query = []
    · rw [hkept hhead hnone, Text.takeWhile_of_not_mem (hfree hnone), hnone, List.append_nil]
    · rw [← Target.number_mem_head_join hendpoint] at hhead
      rw [hquery, Target.splitQuery_addQuery hnone hhead, hexisting]
      exact Form.parse_serialize _
  · rw [← Target.number_mem_head_join hendpoint] at hhead
    rw [hquery, Target.splitQuery_lost hhead]
    rfl
  · rw [hkept hhead hnone]

/-- A pair in the path and one with marks of its own both arrive. -/
theorem build_query_marked :
    let c := (Call.new .get "/items?x=1".toList).addQuery [("a b".toList, "c&d=#?".toList)]
    ∃ request, c.build .standard "http://localhost".toList .nil (.first 1) = .ok request ∧
      Form.parse (request.uri.query.getD []) =
        [("x".toList, "1".toList), ("a b".toList, "c&d=#?".toList)] := by
  intro c
  have hbuilt : ((c.build .standard "http://localhost".toList .nil (.first 1)).toOption).isSome =
      true := by
    decide +kernel
  have hmarks : '#' ∉ Target.head c.path ∧ '#' ∉ Target.existing c.path := by decide
  have hexisting : Form.parse (Target.existing c.path) = [("x".toList, "1".toList)] :=
    Form.parse_serialize [("x".toList, "1".toList)]
  cases hbuild : c.build .standard "http://localhost".toList .nil (.first 1) with
  | error failure =>
      rw [hbuild] at hbuilt
      cases hbuilt
  | ok request =>
      refine ⟨request, rfl, ?_⟩
      rw [(build_query hbuild (.inl rfl) (by decide)).1 hmarks.1 fun _ => hmarks.2, hexisting]
      rfl

/-- With a number sign in the path, a pair that the call asks for does not arrive. -/
theorem numbered_path_loses_query :
    let c := (Call.new .get "/items#1".toList).addQuery [("a".toList, "b".toList)]
    ∃ request,
      c.build .standard "https://service.example.com".toList .nil (.first 1) = .ok request ∧
        Form.parse (request.uri.query.getD []) = [] ∧
        Form.parse (Target.existing c.path) ++ c.query = [("a".toList, "b".toList)] := by
  intro c
  have hquery : (c.build .standard "https://service.example.com".toList .nil
      (.first 1)).toOption.map (·.uri.query) = some none := by
    decide +kernel
  cases hbuild : c.build .standard "https://service.example.com".toList .nil (.first 1) with
  | error failure =>
      rw [hbuild] at hquery
      cases hquery
  | ok request =>
      rw [hbuild] at hquery
      have hnone : request.uri.query = none := Option.some.inj hquery
      refine ⟨request, rfl, ?_, rfl⟩
      rw [hnone]
      rfl

end Call

end ServiceCall
