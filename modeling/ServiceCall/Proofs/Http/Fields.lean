import ServiceCall.Http.Fields
import ServiceCall.Proofs.Text.Order

/-!
# The names of fields

The names that have a value are listed in order and each once, so their list says no more than
which names those are.
-/

namespace ServiceCall.Fields

theorem sublist_eraseDups {α : Type} [BEq α] (l : List α) : l.eraseDups.Sublist l := by
  match l with
  | [] => exact List.Sublist.slnil
  | a :: rest =>
      rw [List.eraseDups_cons]
      exact ((sublist_eraseDups _).trans List.filter_sublist).cons_cons a
termination_by l.length
decreasing_by exact Nat.lt_succ_of_le (List.length_filter_le _ rest)

theorem nodup_eraseDups {α : Type} [BEq α] [LawfulBEq α] (l : List α) : l.eraseDups.Nodup := by
  match l with
  | [] => exact List.nodup_nil
  | a :: rest =>
      rw [List.eraseDups_cons, List.nodup_cons]
      exact ⟨by simp, nodup_eraseDups _⟩
termination_by l.length
decreasing_by exact Nat.lt_succ_of_le (List.length_filter_le _ rest)

theorem mem_names (f : Fields) (name : HeaderName) :
    name ∈ f.names ↔ f.contains name = true := by
  simp [names, sorted, contains]

theorem nodup_names (f : Fields) : f.names.Nodup := nodup_eraseDups _

theorem pairwise_names (f : Fields) :
    f.names.Pairwise fun a b => Text.le a.text b.text = true := by
  refine List.Pairwise.sublist (sublist_eraseDups _) (List.pairwise_map.2 ?_)
  apply List.pairwise_mergeSort
  · exact fun _ _ _ hab hbc => Text.le_trans hab hbc
  · exact fun _ _ => Text.le_total _ _

/-- The names that pass a test are listed alike by two fields exactly when they are the same. -/
theorem filter_names_eq_iff (p : HeaderName → Bool) (f g : Fields) :
    f.names.filter p = g.names.filter p ↔
      ∀ name, p name = true → f.contains name = g.contains name := by
  have hmem (h : Fields) (name : HeaderName) :
      name ∈ h.names.filter p ↔ h.contains name = true ∧ p name = true := by
    rw [List.mem_filter, mem_names]
  constructor
  · intro heq name hname
    have hiff := hmem f name
    rw [heq, hmem g name] at hiff
    exact Bool.eq_iff_iff.2 (by simpa [hname] using hiff.symm)
  · intro hsame
    have hantisymm (a b : HeaderName) (hab : Text.le a.text b.text = true)
        (hba : Text.le b.text a.text = true) : a = b :=
      HeaderName.text_injective (Text.le_antisymm hab hba)
    refine List.Perm.eq_of_pairwise (fun a b _ _ => hantisymm a b)
      (f.pairwise_names.sublist List.filter_sublist)
      (g.pairwise_names.sublist List.filter_sublist) ?_
    refine (List.perm_ext_iff_of_nodup (f.nodup_names.sublist List.filter_sublist)
      (g.nodup_names.sublist List.filter_sublist)).2 fun name => ?_
    rw [hmem, hmem]
    exact and_congr_left fun hname => by rw [hsame name hname]

end ServiceCall.Fields
