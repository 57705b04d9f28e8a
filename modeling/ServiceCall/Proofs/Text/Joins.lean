import ServiceCall.Text.Blank

/-!
# Joining and splitting

Pieces that are free of a separator come back when their joined text is split at it, so a joined
text has one list of pieces.  A text without its superfluous blanks is the join of its words.
-/

namespace ServiceCall.Text

theorem splitAll_of_not_mem {separator : Char} {s : Text} (hfree : separator ∉ s) :
    splitAll separator s = [s] := by
  induction s with
  | nil => rfl
  | cons c rest ih =>
      rw [splitAll, ih (List.not_mem_of_not_mem_cons hfree)]
      exact if_neg (List.ne_of_not_mem_cons hfree).symm

theorem splitAll_append {separator : Char} {piece : Text} (hfree : separator ∉ piece) (s : Text) :
    splitAll separator (piece ++ separator :: s) = piece :: splitAll separator s := by
  induction piece with
  | nil =>
      obtain ⟨first, others, hsplit⟩ := List.exists_cons_of_ne_nil (splitAll_ne_nil separator s)
      rw [List.nil_append, splitAll, hsplit]
      exact if_pos rfl
  | cons c rest ih =>
      rw [List.cons_append, splitAll, ih (List.not_mem_of_not_mem_cons hfree)]
      exact if_neg (List.ne_of_not_mem_cons hfree).symm

theorem join_cons {separator piece : Text} {pieces : List Text} (hpieces : pieces ≠ []) :
    join separator (piece :: pieces) = piece ++ separator ++ join separator pieces := by
  cases pieces with
  | nil => exact absurd rfl hpieces
  | cons => rfl

/-- All pieces but those of a last part are followed by a separator. -/
theorem join_append {separator : Text} (front : List Text) {back : List Text} (hback : back ≠ []) :
    join separator (front ++ back) = front.flatMap (· ++ separator) ++ join separator back := by
  induction front with
  | nil => rfl
  | cons piece rest ih =>
      rw [List.cons_append, join_cons (List.append_ne_nil_of_right_ne_nil rest hback), ih,
        List.flatMap_cons, List.append_assoc (piece ++ separator)]

/-- Splitting undoes joining. -/
theorem splitAll_join {separator : Char} {pieces : List Text} (hpieces : pieces ≠ [])
    (hfree : ∀ piece ∈ pieces, separator ∉ piece) :
    splitAll separator (join [separator] pieces) = pieces := by
  induction pieces with
  | nil => exact absurd rfl hpieces
  | cons piece rest ih =>
      obtain ⟨hpiece, hrest⟩ := List.forall_mem_cons.1 hfree
      cases rest with
      | nil => exact splitAll_of_not_mem hpiece
      | cons =>
          rw [join_cons (List.cons_ne_nil _ _), List.append_assoc, List.singleton_append,
            splitAll_append hpiece, ih (List.cons_ne_nil _ _) hrest]

/-- Every separator divides the pieces before it from those after it. -/
theorem splitAll_append_separator (separator : Char) (s t : Text) :
    splitAll separator (s ++ separator :: t) = splitAll separator s ++ splitAll separator t := by
  induction s with
  | nil => exact splitAll_append List.not_mem_nil t
  | cons c rest ih =>
      obtain ⟨first, others, hsplit⟩ := List.exists_cons_of_ne_nil (splitAll_ne_nil separator rest)
      rw [hsplit] at ih
      rw [List.cons_append, splitAll, ih, splitAll, hsplit]
      dsimp only [List.cons_append]
      split <;> rfl

/-- Joining undoes splitting. -/
theorem join_splitAll (separator : Char) (s : Text) :
    join [separator] (splitAll separator s) = s := by
  induction s with
  | nil => rfl
  | cons c rest ih =>
      obtain ⟨first, others, hsplit⟩ := List.exists_cons_of_ne_nil (splitAll_ne_nil separator rest)
      rw [hsplit] at ih
      rw [splitAll, hsplit]
      dsimp only
      split
      · rename_i hc
        rw [join_cons (List.cons_ne_nil _ _), ih, hc]
        rfl
      · cases others with
        | nil => exact congrArg (c :: ·) ih
        | cons => exact congrArg (c :: ·) ih

theorem mem_of_mem_splitAll {c separator : Char} {s piece : Text}
    (hpiece : piece ∈ splitAll separator s) (hc : c ∈ piece) : c ∈ s := by
  induction s generalizing piece with
  | nil =>
      rw [List.mem_singleton.1 hpiece] at hc
      exact absurd hc List.not_mem_nil
  | cons d rest ih =>
      obtain ⟨first, others, hsplit⟩ := List.exists_cons_of_ne_nil (splitAll_ne_nil separator rest)
      rw [splitAll, hsplit] at hpiece
      rw [hsplit] at ih
      dsimp only at hpiece
      split at hpiece
      · rcases List.mem_cons.1 hpiece with rfl | hlater
        · exact absurd hc List.not_mem_nil
        · exact List.mem_cons_of_mem d (ih hlater hc)
      · rcases List.mem_cons.1 hpiece with rfl | hlater
        · rcases List.mem_cons.1 hc with rfl | hmem
          · exact List.mem_cons_self
          · exact List.mem_cons_of_mem d (ih List.mem_cons_self hmem)
        · exact List.mem_cons_of_mem d (ih (List.mem_cons_of_mem _ hlater) hc)

theorem join_injective {separator : Char} {left right : List Text} (hleft : left ≠ [])
    (hright : right ≠ []) (hleftFree : ∀ piece ∈ left, separator ∉ piece)
    (hrightFree : ∀ piece ∈ right, separator ∉ piece)
    (hjoin : join [separator] left = join [separator] right) : left = right := by
  rw [← splitAll_join hleft hleftFree, hjoin, splitAll_join hright hrightFree]

/-- Pieces that are not empty need not be counted: none are left exactly for the empty text. -/
theorem join_eq_nil_iff {separator : Text} {pieces : List Text}
    (hpieces : ∀ piece ∈ pieces, piece ≠ []) : join separator pieces = [] ↔ pieces = [] := by
  cases pieces with
  | nil => exact iff_of_true rfl rfl
  | cons piece rest =>
      have hpiece := (List.forall_mem_cons.1 hpieces).1
      refine iff_of_false ?_ (List.cons_ne_nil _ _)
      cases rest with
      | nil => exact hpiece
      | cons =>
          rw [join_cons (List.cons_ne_nil _ _), List.append_assoc]
          exact fun hnil => hpiece (List.append_eq_nil_iff.1 hnil).1

theorem join_injective_of_ne_nil {separator : Char} {left right : List Text}
    (hleft : ∀ piece ∈ left, separator ∉ piece ∧ piece ≠ [])
    (hright : ∀ piece ∈ right, separator ∉ piece ∧ piece ≠ [])
    (hjoin : join [separator] left = join [separator] right) : left = right := by
  have hleftNil : join [separator] left = [] ↔ left = [] :=
    join_eq_nil_iff fun piece hp => (hleft piece hp).2
  have hrightNil : join [separator] right = [] ↔ right = [] :=
    join_eq_nil_iff fun piece hp => (hright piece hp).2
  rw [hjoin, hrightNil] at hleftNil
  by_cases hempty : right = []
  · rw [hleftNil.1 hempty, hempty]
  · exact join_injective (mt hleftNil.2 hempty) hempty (fun piece hp => (hleft piece hp).1)
      (fun piece hp => (hright piece hp).1) hjoin

theorem mem_join {c : Char} {separator : Text} {pieces : List Text}
    (hc : c ∈ join separator pieces) : c ∈ separator ∨ ∃ piece ∈ pieces, c ∈ piece := by
  induction pieces with
  | nil => exact absurd hc List.not_mem_nil
  | cons piece rest ih =>
      cases rest with
      | nil => exact .inr ⟨piece, List.mem_singleton_self piece, hc⟩
      | cons =>
          rw [join_cons (List.cons_ne_nil _ _)] at hc
          rcases List.mem_append.1 hc with hfront | hrest
          · rcases List.mem_append.1 hfront with hpiece | hseparator
            · exact .inr ⟨piece, List.mem_cons_self, hpiece⟩
            · exact .inl hseparator
          · refine (ih hrest).imp_right ?_
            rintro ⟨other, hother, hmem⟩
            exact ⟨other, List.mem_cons_of_mem _ hother, hmem⟩

end ServiceCall.Text
