import ServiceCall.Text.Basic

/-!
# The order of texts

Texts are ordered by their first different characters.  The order is linear, and under a linear
order two lists sort alike exactly when they hold the same things the same number of times.
-/

namespace ServiceCall.Text

theorem le_iff (a b : Text) : le a b = true ↔ ¬b < a := by
  rw [le, Bool.not_eq_true', decide_eq_false_iff_not]

theorem le_total (a b : Text) : (le a b || le b a) = true := by
  rw [Bool.or_eq_true, le_iff, le_iff]
  exact (List.le_total a b).imp List.not_lt.2 List.not_lt.2

theorem le_trans {a b c : Text} (hab : le a b = true) (hbc : le b c = true) : le a c = true := by
  rw [le_iff] at hab hbc ⊢
  exact List.not_lt.2 (List.le_trans (List.not_lt.1 hab) (List.not_lt.1 hbc))

theorem le_antisymm {a b : Text} (hab : le a b = true) (hba : le b a = true) : a = b := by
  rw [le_iff] at hab hba
  exact List.le_antisymm (List.not_lt.1 hab) (List.not_lt.1 hba)

theorem not_le_trans {a b c : Text} (hab : le b a = false) (hbc : le c b = false) :
    le c a = false := by
  refine Bool.eq_false_iff.2 fun hca => ?_
  have hle : le a b = true := by simpa [hab] using le_total a b
  exact absurd (le_trans hca hle) (Bool.eq_false_iff.1 hbc)

/-- Sorting forgets the order and nothing else. -/
theorem mergeSort_eq_iff {α : Type} {le : α → α → Bool}
    (htotal : ∀ a b, (le a b || le b a) = true)
    (htrans : ∀ a b c, le a b = true → le b c = true → le a c = true)
    (hantisymm : ∀ a b, le a b = true → le b a = true → a = b) (left right : List α) :
    left.mergeSort le = right.mergeSort le ↔ left.Perm right := by
  constructor
  · intro heq
    have hleft := List.mergeSort_perm left le
    rw [heq] at hleft
    exact hleft.symm.trans (List.mergeSort_perm right le)
  · intro hperm
    refine List.Perm.eq_of_pairwise (fun a b _ _ => hantisymm a b)
      (List.pairwise_mergeSort htrans htotal left) (List.pairwise_mergeSort htrans htotal right) ?_
    exact (List.mergeSort_perm left le).trans (hperm.trans (List.mergeSort_perm right le).symm)

end ServiceCall.Text
