import ServiceCall.Http.Uri
import ServiceCall.Proofs.Text.Cuts

/-!
# The query of a URI

A query begins at the first question mark that no number sign precedes, and ends at the first number
sign.  Nothing in front of a path decides where that is: neither a scheme nor an authority holds one
of the two marks.
-/

namespace ServiceCall.Uri

/-- The text holds neither of the marks that end a path. -/
def Unmarked (s : Text) : Prop := '?' ∉ s ∧ '#' ∉ s

theorem Unmarked.append {s t : Text} (hs : Unmarked s) (ht : Unmarked t) : Unmarked (s ++ t) := by
  simp only [Unmarked, List.mem_append, not_or]
  exact ⟨⟨hs.1, ht.1⟩, hs.2, ht.2⟩

theorem Unmarked.of_all {p : Char → Bool} {s : Text} (hs : s.all p = true)
    (hquestion : p '?' = false) (hnumber : p '#' = false) : Unmarked s := by
  rw [List.all_eq_true] at hs
  exact ⟨fun hmem => Bool.false_ne_true (hquestion.symm.trans (hs _ hmem)),
    fun hmem => Bool.false_ne_true (hnumber.symm.trans (hs _ hmem))⟩

theorem Unmarked.of_lower {s : Text} (hs : Unmarked (Text.lower s)) : Unmarked s :=
  ⟨fun hmem => hs.1 (List.mem_map.2 ⟨'?', hmem, by decide⟩),
    fun hmem => hs.2 (List.mem_map.2 ⟨'#', hmem, by decide⟩)⟩

/-- What stands in front of the marks does not move them. -/
theorem splitQuery_append {front : Text} (hfront : Unmarked front) (s : Text) :
    (splitQuery (front ++ s)).2 = (splitQuery s).2 := by
  rw [splitQuery, splitQuery, Text.takeWhile_append_left hfront.2,
    Text.splitOnce_append_left hfront.1]
  cases Text.splitOnce '?' (s.takeWhile (· ≠ '#')) <;> rfl

theorem splitQuery_unmarked {s : Text} (hs : Unmarked s) : (splitQuery s).2 = none := by
  rw [← List.append_nil s, splitQuery_append hs]
  rfl

/-- A question mark that no number sign precedes begins the query. -/
theorem splitQuery_question {base : Text} (hbase : Unmarked base) (query : Text) :
    (splitQuery (base ++ '?' :: query)).2 = some (query.takeWhile (· ≠ '#')) := by
  rw [splitQuery_append hbase]
  rfl

/-- After a number sign there is no query. -/
theorem splitQuery_number {base : Text} (hquestion : '?' ∉ base) (hnumber : '#' ∈ base)
    (rest : Text) : (splitQuery (base ++ rest)).2 = none := by
  obtain ⟨before, after, rfl, hbefore⟩ := List.eq_append_cons_of_mem hnumber
  have hnone : Text.splitOnce '?' before = none :=
    (Text.splitOnce_eq_none_iff ..).2 fun hmem => hquestion (List.mem_append_left _ hmem)
  rw [splitQuery, List.append_assoc, List.cons_append, Text.takeWhile_mark hbefore, hnone]

theorem ofParts?_query {scheme authority query : Option Text} {path : Text} {u : Uri}
    (hparts : ofParts? scheme authority path query = some u) : u.query = query := by
  rw [ofParts?] at hparts
  split at hparts
  · rw [← Option.some.inj hparts]
  · cases hparts

theorem isAuthority_unmarked {s : Text} (hs : isAuthority s = true) : Unmarked s := by
  rw [isAuthority] at hs
  split at hs
  · simp only [Bool.and_eq_true] at hs
    exact .of_all hs.2 (by decide) (by decide)
  · cases hs

/-- A scheme is taken off with nothing else, and holds no mark. -/
theorem splitScheme?_unmarked {s rest : Text} {scheme : Option Text}
    (hs : splitScheme? s = some (scheme, rest)) :
    ∃ front, s = front ++ rest ∧ Unmarked front ∧ (scheme = none → rest = s) := by
  simp only [splitScheme?] at hs
  split at hs
  · rename_i hfront
    cases hs
    refine ⟨s.take 7, (List.take_append_drop 7 s).symm, .of_lower ?_, nofun⟩
    exact hfront ▸ ⟨by decide, by decide⟩
  · split at hs
    · rename_i hfront
      cases hs
      refine ⟨s.take 8, (List.take_append_drop 8 s).symm, .of_lower ?_, nofun⟩
      exact hfront ▸ ⟨by decide, by decide⟩
    · split at hs
      · rename_i hslashes
        obtain ⟨after, hafter⟩ := List.isPrefixOf_iff_prefix.1 hslashes.2
        split at hs
        · cases hs
          refine ⟨s.takeWhile isSchemeChar ++ "://".toList, ?_, ?_, nofun⟩
          · have hrest : s.drop ((s.takeWhile isSchemeChar).length + 3) = after := by
              rw [← List.drop_drop, ← hafter]
              rfl
            rw [hrest, List.append_assoc, hafter]
            exact (List.prefix_iff_eq_append.1 (List.takeWhile_prefix _)).symm
          · exact .append (.of_all List.all_takeWhile (by decide) (by decide))
              ⟨by decide, by decide⟩
        · cases hs
      · cases hs
        exact ⟨[], rfl, ⟨List.not_mem_nil, List.not_mem_nil⟩, fun _ => rfl⟩

/-- After a scheme and an authority the marks are where they are in the whole text. -/
theorem splitQuery_absolute {front rest : Text} (hfront : Unmarked front)
    (hauthority : isAuthority (rest.takeWhile fun c => !endsAuthority c) = true) :
    (splitQuery (rest.drop (rest.takeWhile fun c => !endsAuthority c).length)).2 =
      (splitQuery (front ++ rest)).2 := by
  calc
    (splitQuery (rest.drop (rest.takeWhile fun c => !endsAuthority c).length)).2 =
        (splitQuery (rest.takeWhile (fun c => !endsAuthority c) ++
          rest.drop (rest.takeWhile fun c => !endsAuthority c).length)).2 :=
      (splitQuery_append (isAuthority_unmarked hauthority) _).symm
    _ = (splitQuery rest).2 := by
      rw [List.prefix_iff_eq_append.1 (List.takeWhile_prefix _)]
    _ = (splitQuery (front ++ rest)).2 := (splitQuery_append hfront rest).symm

/-- The query of a URI stands in its text between the two marks. -/
theorem parse?_query {s : Text} {u : Uri} (hs : parse? s = some u) :
    u.query = (splitQuery s).2 := by
  rw [parse?] at hs
  split at hs
  · cases hs
  split at hs
  · rename_i hstar
    rw [ofParts?_query hs, hstar]
    rfl
  split at hs
  · exact ofParts?_query hs
  split at hs
  · cases hs
  · rename_i rest hscheme
    obtain ⟨_, _, _, hwhole⟩ := splitScheme?_unmarked hscheme
    split at hs
    · rename_i hauthority
      rw [ofParts?_query hs, ← hwhole rfl, splitQuery_unmarked (isAuthority_unmarked hauthority)]
    · cases hs
  · rename_i scheme rest hscheme
    obtain ⟨front, rfl, hunmarked, _⟩ := splitScheme?_unmarked hscheme
    dsimp only at hs
    split at hs
    · cases hs
    · rename_i hauthority
      rw [not_or, Decidable.not_not] at hauthority
      rw [ofParts?_query hs, splitQuery_absolute hunmarked hauthority.2]

end ServiceCall.Uri
