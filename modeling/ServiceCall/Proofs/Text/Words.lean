import ServiceCall.Proofs.Text.Joins
import Mathlib.Data.List.DropRight

/-!
# Words and blanks

The words of a text are what is left of it when it is trimmed and split at its runs of blanks.  With
one space between neighbours they are the trimmed text in which every run is one space.
-/

namespace ServiceCall.Text

/-- The text with one space in the place of each run of blanks. -/
def collapseRuns : Text → Text
  | [] => []
  | c :: rest =>
    if isBlank c then
      if rest.head?.any isBlank then collapseRuns rest else ' ' :: collapseRuns rest
    else c :: collapseRuns rest

theorem eq_space_of_mem_collapseRuns {c : Char} {s : Text} (hc : c ∈ collapseRuns s) :
    c = ' ' ∨ isBlank c = false := by
  induction s with
  | nil => exact absurd hc List.not_mem_nil
  | cons d rest ih =>
      rw [collapseRuns] at hc
      split at hc
      · split at hc
        · exact ih hc
        · exact (List.mem_cons.1 hc).elim .inl ih
      · next hd =>
        rcases List.mem_cons.1 hc with rfl | hrest
        · exact .inr (Bool.eq_false_iff.2 hd)
        · exact ih hrest

theorem words_cons_blank {c : Char} (hc : isBlank c = true) (rest : Text) :
    words (c :: rest) = words rest := by
  rw [words.eq_def]
  exact if_pos hc

theorem words_ne_nil {c : Char} (hc : isBlank c = false) (rest : Text) :
    words (c :: rest) ≠ [] := by
  rw [words.eq_def]
  simp only [hc, Bool.false_eq_true, if_false]
  cases rest with
  | nil => exact List.cons_ne_nil _ _
  | cons d others =>
      dsimp only
      split
      · exact List.cons_ne_nil _ _
      · split <;> exact List.cons_ne_nil _ _

/-- A word begins where a character other than a blank stands alone or before a blank, and else it
is longer by that character. -/
theorem words_cons {c : Char} (hc : isBlank c = false) (rest : Text) :
    words (c :: rest) =
      if rest.head?.all isBlank then [c] :: words rest else (words rest).modifyHead (c :: ·) := by
  rw [words.eq_def]
  simp only [hc, Bool.false_eq_true, if_false]
  cases rest with
  | nil => rfl
  | cons d others =>
      cases hd : isBlank d with
      | true => simp [hd]
      | false =>
          obtain ⟨word, more, hwords⟩ := List.exists_cons_of_ne_nil (words_ne_nil hd others)
          simp [hd, hwords]

theorem words_trimStart (s : Text) : words (trimStart isBlank s) = words s := by
  induction s with
  | nil => rfl
  | cons c rest ih =>
      rw [trimStart, List.dropWhile_cons]
      split
      · next hc => exact ih.trans (words_cons_blank hc rest).symm
      · rfl

/-- A blank at the end belongs to no word. -/
theorem words_concat_blank (s : Text) {b : Char} (hb : isBlank b = true) :
    words (s ++ [b]) = words s := by
  induction s with
  | nil => exact words_cons_blank hb []
  | cons c rest ih =>
      rw [List.cons_append]
      cases hc : isBlank c with
      | true => rw [words_cons_blank hc, words_cons_blank hc, ih]
      | false =>
          have hhead : (rest ++ [b]).head?.all isBlank = rest.head?.all isBlank := by
            cases rest with
            | nil => simp [hb]
            | cons => rfl
          rw [words_cons hc, words_cons hc, ih, hhead]

theorem trimEnd_concat (p : Char → Bool) (s : Text) (c : Char) :
    trimEnd p (s ++ [c]) = if p c then trimEnd p s else s ++ [c] :=
  List.rdropWhile_concat p s c

theorem words_trimEnd (s : Text) : words (trimEnd isBlank s) = words s := by
  induction s using List.reverseRecOn with
  | nil => rfl
  | append_singleton s c ih =>
      rw [trimEnd_concat]
      split
      · next hc => rw [ih, words_concat_blank s hc]
      · rfl

theorem words_trim (s : Text) : words (trim s) = words s := by
  rw [trim, words_trimEnd, words_trimStart]

/-- Only blanks have no words. -/
theorem isBlank_of_words_eq_nil {s : Text} (hwords : words s = []) : ∀ c ∈ s, isBlank c = true := by
  induction s with
  | nil => simp
  | cons c rest ih =>
      cases hc : isBlank c with
      | true =>
          rw [words_cons_blank hc] at hwords
          exact List.forall_mem_cons.2 ⟨hc, ih hwords⟩
      | false => exact absurd hwords (words_ne_nil hc rest)

/-- A text that ends in a word and begins with a blank. -/
theorem collapseRuns_of_blank {d : Char} (hd : isBlank d = true) {rest : Text}
    (hlast : ∀ h, isBlank ((d :: rest).getLast h) = false) :
    collapseRuns (d :: rest) = ' ' :: collapseRuns (trimStart isBlank rest) := by
  induction rest generalizing d with
  | nil =>
      have hnot := hlast (List.cons_ne_nil _ _)
      rw [List.getLast_singleton, hd] at hnot
      cases hnot
  | cons e others ih =>
      rw [collapseRuns, if_pos hd, trimStart, List.dropWhile_cons]
      cases he : isBlank e with
      | true =>
          rw [if_pos (by simpa using he), if_pos rfl]
          exact ih he fun h => hlast (List.cons_ne_nil _ _)
      | false => simp [he]

/-- The words of a text that does not end in a blank, with single spaces between them. -/
theorem join_words {s : Text} (hlast : ∀ h, isBlank (s.getLast h) = false) :
    join [' '] (words s) = collapseRuns (trimStart isBlank s) := by
  induction s with
  | nil => rfl
  | cons c rest ih =>
      have hlater (hne : rest ≠ []) (h : rest ≠ []) : isBlank (rest.getLast h) = false := by
        rw [← List.getLast_cons h]
        exact hlast (List.cons_ne_nil _ _)
      rw [trimStart, List.dropWhile_cons]
      cases hc : isBlank c with
      | true =>
          have hne : rest ≠ [] := by
            rintro rfl
            have hnot := hlast (List.cons_ne_nil _ _)
            rw [List.getLast_singleton, hc] at hnot
            cases hnot
          rw [words_cons_blank hc, ih (hlater hne)]
          rfl
      | false =>
          rw [words_cons hc, if_neg Bool.false_ne_true, collapseRuns, hc,
            if_neg Bool.false_ne_true]
          cases rest with
          | nil => rfl
          | cons d others =>
              have ih := ih (hlater (List.cons_ne_nil _ _))
              cases hd : isBlank d with
              | true =>
                  have hwords : words (d :: others) ≠ [] := fun hnil => by
                    have hmem := List.getLast_mem (List.cons_ne_nil d others)
                    have := isBlank_of_words_eq_nil hnil _ hmem
                    rw [hlater (List.cons_ne_nil _ _)] at this
                    cases this
                  rw [if_pos (by simpa using hd), join_cons hwords, ih,
                    collapseRuns_of_blank hd (hlater (List.cons_ne_nil _ _)), trimStart,
                    List.dropWhile_cons, if_pos hd]
                  rfl
              | false =>
                  obtain ⟨word, more, hmore⟩ := List.exists_cons_of_ne_nil (words_ne_nil hd others)
                  rw [trimStart, List.dropWhile_cons, hd, if_neg Bool.false_ne_true, hmore] at ih
                  rw [if_neg (by simp [hd]), hmore, ← ih]
                  cases more <;> rfl

theorem trimStart_trim (s : Text) : trimStart isBlank (trim s) = trim s := by
  refine List.dropWhile_eq_self_iff.2 fun hpos => ?_
  obtain ⟨tail, htail⟩ : trim s <+: trimStart isBlank s := List.rdropWhile_prefix ..
  have hstart : trimStart isBlank (trimStart isBlank s) = trimStart isBlank s :=
    List.dropWhile_idempotent isBlank s
  have hlength : 0 < (trimStart isBlank s).length := by
    rw [← htail, List.length_append]
    exact Nat.add_pos_left hpos _
  have hhead := List.dropWhile_eq_self_iff.1 hstart hlength
  simpa only [← htail, List.getElem_append_left hpos] using hhead

/-- The words of a text with single spaces between them are the trimmed text with one space for each
run of blanks. -/
theorem join_words_eq (s : Text) : join [' '] (words s) = collapseRuns (trim s) := by
  rw [← words_trim, join_words, trimStart_trim]
  exact fun h => Bool.eq_false_iff.2 (List.rdropWhile_last_not isBlank _ h)

/-! ## Text without blanks -/

variable {s : Text}

theorem trim_of_no_blank (hs : ∀ c ∈ s, isBlank c = false) : trim s = s := by
  have hkept (t : Text) (ht : ∀ c ∈ t, isBlank c = false) : t.dropWhile isBlank = t := by
    cases t with
    | nil => rfl
    | cons c rest => exact List.dropWhile_cons_of_neg (by simp [ht c List.mem_cons_self])
  rw [trim, trimEnd, trimStart, hkept s hs,
    hkept s.reverse fun c hc => hs c (List.mem_reverse.1 hc), List.reverse_reverse]

theorem collapseRuns_of_no_blank (hs : ∀ c ∈ s, isBlank c = false) : collapseRuns s = s := by
  induction s with
  | nil => rfl
  | cons c rest ih =>
      obtain ⟨hc, hrest⟩ := List.forall_mem_cons.1 hs
      rw [collapseRuns, hc, if_neg Bool.false_ne_true, ih hrest]

end ServiceCall.Text
