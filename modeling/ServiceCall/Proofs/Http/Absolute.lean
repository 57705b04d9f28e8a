import ServiceCall.Proofs.Http.Uri
import ServiceCall.Proofs.Text.Ascii

/-!
# URIs with a scheme and an authority

A text that is a scheme, two slashes, an authority and a tail is read as such a URI, and scheme and
authority are found as they are: the first colon ends the scheme, and the first mark of the tail
ends the authority.
-/

namespace ServiceCall.Uri

/-- The characters of a scheme in an address. -/
def isPlainSchemeChar (c : Char) : Bool := c.isAlphanum || c == '+' || c == '-' || c == '.'

/-- A scheme in small letters. -/
structure IsScheme (scheme : Text) : Prop where
  first : ∃ c rest, scheme = c :: rest ∧ c.isAlpha = true
  small : Text.lower scheme = scheme
  characters : ∀ c ∈ scheme, isPlainSchemeChar c = true

/-- The text holds none of the marks that end an authority. -/
def Enclosed (s : Text) : Prop := ∀ c ∈ s, endsAuthority c = false

/-- The text is empty or begins with a mark that ends an authority. -/
def Closing (s : Text) : Prop := ∀ c ∈ s.head?, endsAuthority c = true

variable {scheme authority tail rest : Text}

theorem Enclosed.append {s t : Text} (hs : Enclosed s) (ht : Enclosed t) : Enclosed (s ++ t) :=
  List.forall_mem_append.2 ⟨hs, ht⟩

theorem takeWhile_closing (hauthority : Enclosed authority) (htail : Closing tail) :
    (authority ++ tail).takeWhile (fun c => !endsAuthority c) = authority := by
  rw [List.takeWhile_append_of_pos fun c hc => by rw [hauthority c hc]; rfl]
  cases tail with
  | nil => rw [List.takeWhile_nil, List.append_nil]
  | cons c others =>
      rw [List.takeWhile_cons_of_neg (by rw [htail c rfl]; decide), List.append_nil]

theorem IsScheme.not_colon (hscheme : IsScheme scheme) : ':' ∉ scheme :=
  fun hmem => absurd (hscheme.characters ':' hmem) (by decide)

/-- A scheme that is compared with a word in small letters is that word. -/
theorem IsScheme.eq_of_take (hscheme : IsScheme scheme) {word : Text} (hword : ':' ∉ word) {n : Nat}
    (htake : Text.lower ((scheme ++ "://".toList ++ rest).take n) = word ++ "://".toList) :
    scheme = word := by
  have hcut (before after : Text) (hbefore : ':' ∉ before) :
      Text.splitOnce ':' (before ++ "://".toList ++ after) =
        some (before, '/' :: '/' :: after) := by
    rw [List.append_assoc]
    exact Text.splitOnce_append _ _ _ hbefore
  have hslashes : Text.lower "://".toList = "://".toList := by decide
  have hsplit := congrArg Text.lower (List.take_append_drop n (scheme ++ "://".toList ++ rest))
  rw [Text.lower_append, htake, Text.lower_append, Text.lower_append, hscheme.small,
    hslashes] at hsplit
  have hparts := congrArg (Text.splitOnce ':') hsplit
  rw [hcut _ _ hword, hcut _ _ hscheme.not_colon] at hparts
  exact (congrArg Prod.fst (Option.some.inj hparts)).symm

/-- The scheme of an absolute text is what is taken off. -/
theorem splitScheme?_absolute (hscheme : IsScheme scheme) {found : Option Text × Text}
    (hsplit : splitScheme? (scheme ++ "://".toList ++ rest) = some found) :
    found = (some scheme, rest) := by
  simp only [splitScheme?] at hsplit
  split at hsplit
  · rename_i hhttp
    obtain rfl : scheme = "http".toList := hscheme.eq_of_take (by decide) hhttp
    cases hsplit
    rfl
  split at hsplit
  · rename_i hhttps
    obtain rfl : scheme = "https".toList := hscheme.eq_of_take (by decide) hhttps
    cases hsplit
    rfl
  have htake : (scheme ++ "://".toList ++ rest).takeWhile isSchemeChar = scheme := by
    rw [List.append_assoc, List.takeWhile_append_of_pos fun c hc => ?_]
    · exact List.append_nil scheme
    · exact Bool.or_eq_true_iff.2 (.inl (hscheme.characters c hc))
  have hdrop : (scheme ++ "://".toList ++ rest).drop scheme.length = "://".toList ++ rest := by
    rw [List.append_assoc, List.drop_left]
  have hrest : (scheme ++ "://".toList ++ rest).drop (scheme.length + 3) = rest := by
    rw [← List.drop_drop, hdrop]
    rfl
  have hlong : 3 < (scheme ++ "://".toList ++ rest).length := by
    obtain ⟨c, others, rfl, -⟩ := hscheme.first
    rw [List.length_append, List.length_append, List.length_cons,
      show "://".toList.length = 3 from rfl]
    omega
  rw [htake, hdrop, hrest, if_pos ⟨hlong, by simp⟩] at hsplit
  split at hsplit
  · exact (Option.some.inj hsplit).symm
  · cases hsplit

theorem ofParts?_parts {scheme authority query : Option Text} {path : Text} {u : Uri}
    (hparts : ofParts? scheme authority path query = some u) :
    u.scheme = scheme ∧ u.authority = authority := by
  rw [ofParts?] at hparts
  split at hparts
  · rw [← Option.some.inj hparts]
    exact ⟨rfl, rfl⟩
  · cases hparts

/-- **Scheme and authority are read as they were written.** -/
theorem parse?_absolute {u : Uri} (hscheme : IsScheme scheme) (hauthority : Enclosed authority)
    (htail : Closing tail)
    (hread : parse? (scheme ++ "://".toList ++ (authority ++ tail)) = some u) :
    u.scheme = some scheme ∧ u.authority = some authority := by
  have hhead {mark : Char} (hmark : mark.isAlpha = false) :
      (scheme ++ "://".toList ++ (authority ++ tail)).head? ≠ some mark := by
    obtain ⟨c, others, rfl, hletter⟩ := hscheme.first
    rintro heq
    cases heq
    exact Bool.false_ne_true (hmark.symm.trans hletter)
  rw [parse?] at hread
  split at hread
  · cases hread
  split at hread
  · rename_i hstar
    exact absurd (congrArg List.head? hstar) (hhead (by decide))
  split at hread
  · exact absurd ‹_› (hhead (by decide))
  split at hread
  · cases hread
  · rename_i hsplit
    cases splitScheme?_absolute hscheme hsplit
  · rename_i hsplit
    cases splitScheme?_absolute hscheme hsplit
    dsimp only at hread
    rw [takeWhile_closing hauthority htail] at hread
    split at hread
    · cases hread
    · exact ofParts?_parts hread

end ServiceCall.Uri
