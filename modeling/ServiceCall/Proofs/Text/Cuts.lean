import ServiceCall.Text.Basic

/-!
# Cutting at the first mark

The text up to the first mark and the two parts around it.  Text without the mark that is put in
front moves the cut and changes neither what is cut off nor whether there is a cut.
-/

namespace ServiceCall.Text

variable {mark : Char} {front : Text}

theorem takeWhile_append_left (hfront : mark ∉ front) (s : Text) :
    (front ++ s).takeWhile (· ≠ mark) = front ++ s.takeWhile (· ≠ mark) :=
  List.takeWhile_append_of_pos fun _ hc => decide_eq_true fun heq => hfront (heq ▸ hc)

theorem takeWhile_of_not_mem (hfront : mark ∉ front) : front.takeWhile (· ≠ mark) = front := by
  simpa using takeWhile_append_left hfront []

theorem takeWhile_mark (hfront : mark ∉ front) (s : Text) :
    (front ++ mark :: s).takeWhile (· ≠ mark) = front := by
  rw [takeWhile_append_left hfront, List.takeWhile_cons_of_neg (by simp), List.append_nil]

theorem splitOnce_append_left (hfront : mark ∉ front) (s : Text) :
    splitOnce mark (front ++ s) =
      (splitOnce mark s).map fun parts => (front ++ parts.1, parts.2) := by
  cases hsplit : splitOnce mark s with
  | none =>
      rw [splitOnce_eq_none_iff] at hsplit
      exact (splitOnce_eq_none_iff ..).2 (by simp [hfront, hsplit])
  | some parts =>
      obtain ⟨hparts, hbefore⟩ := splitOnce_eq_some mark hsplit
      rw [hparts, ← List.append_assoc, splitOnce_append _ _ _ (by simp [hfront, hbefore])]
      rfl

end ServiceCall.Text
