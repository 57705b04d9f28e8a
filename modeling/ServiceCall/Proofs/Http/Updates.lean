import ServiceCall.Http.Fields

/-!
# Updates of fields

Setting a field twice keeps the second value, setting different fields may be done in either order
once the one that is moved has its place, and a field that is removed may as well not have been set.
A row of fields that is written over a row of the same names leaves no trace of the first.
-/

namespace ServiceCall.Fields

variable {f : Fields} {a b : HeaderName} {v w : HeaderValue}

theorem contains_eq_false_iff (f : Fields) (a : HeaderName) :
    f.contains a = false ↔ ∀ e ∈ f.entries, e.1 ≠ a := by
  simp [contains]

theorem contains_set : (f.set a v).contains b = (f.contains b || decide (a = b)) := by
  rw [Bool.eq_iff_iff, Bool.or_eq_true, contains_eq_true_iff, contains_eq_true_iff, values_set,
    decide_eq_true_eq]
  by_cases hab : a = b
  · simp [hab]
  · simp [hab]

theorem contains_remove_self : (f.remove a).contains a = false := by
  rw [contains_eq_false_iff]
  intro e he
  simpa using (List.mem_filter.1 he).2

theorem remove_of_not_contains (hnot : f.contains a = false) : f.remove a = f := by
  rw [contains_eq_false_iff] at hnot
  obtain ⟨entries⟩ := f
  rw [remove, mk.injEq, List.filter_eq_self]
  exact fun e he => decide_eq_true (hnot e he)

private theorem filter_replaceFirst (entries : List (HeaderName × HeaderValue)) :
    (replaceFirst a v entries).filter (fun e => e.1 ≠ a) = entries.filter (fun e => e.1 ≠ a) := by
  induction entries with
  | nil => simp [replaceFirst]
  | cons e rest ih =>
      by_cases he : e.1 = a
      · simp [replaceFirst, he]
      · simp only [replaceFirst, he, if_false, List.filter_cons, ih]

theorem remove_set : (f.set a v).remove a = f.remove a :=
  congrArg mk (filter_replaceFirst f.entries)

private theorem replaceFirst_replaceFirst (entries : List (HeaderName × HeaderValue)) :
    replaceFirst a w (replaceFirst a v entries) = replaceFirst a w entries := by
  induction entries with
  | nil => simp [replaceFirst]
  | cons e rest ih =>
      by_cases he : e.1 = a
      · simp [replaceFirst, he]
      · simp only [replaceFirst, he, if_false, ih]

/-- The second of two values is kept. -/
theorem set_set : (f.set a v).set a w = f.set a w :=
  congrArg mk (replaceFirst_replaceFirst f.entries)

private theorem replaceFirst_filter (hne : a ≠ b) (entries : List (HeaderName × HeaderValue)) :
    (replaceFirst a v entries).filter (fun e => e.1 ≠ b) =
      replaceFirst a v (entries.filter fun e => e.1 ≠ b) := by
  induction entries with
  | nil => simp [replaceFirst, hne]
  | cons e rest ih =>
      by_cases he : e.1 = a
      · simp only [replaceFirst, he, if_true, List.filter_cons, ne_eq, hne, not_false_eq_true,
          decide_true, List.filter_filter, Bool.and_comm]
      · by_cases hb : e.1 = b
        · simpa [replaceFirst, he, hb, hne, hne.symm] using ih
        · simpa [replaceFirst, he, hb] using ih

/-- A field in its place is moved past the setting of another. -/
private theorem replaceFirst_comm (hne : a ≠ b) {entries : List (HeaderName × HeaderValue)}
    (hmem : ∃ e ∈ entries, e.1 = a) :
    replaceFirst a v (replaceFirst b w entries) = replaceFirst b w (replaceFirst a v entries) := by
  induction entries with
  | nil => simp at hmem
  | cons e rest ih =>
      by_cases hea : e.1 = a
      · simp only [replaceFirst, hea, hne, if_true, if_false, replaceFirst_filter hne.symm]
      · have hrest : ∃ e ∈ rest, e.1 = a := by simpa [hea] using hmem
        by_cases heb : e.1 = b
        · simp only [replaceFirst, heb, hne.symm, if_true, if_false, replaceFirst_filter hne]
        · simp only [replaceFirst, hea, heb, if_false, ih hrest]

theorem set_comm (hne : a ≠ b) (hmem : f.contains a = true) :
    (f.set b w).set a v = (f.set a v).set b w := by
  refine congrArg mk (replaceFirst_comm hne ?_)
  simpa [contains] using hmem

/-! ## Rows of fields -/

/-- Sets fields one after the other. -/
def setAll (f : Fields) (row : List (HeaderName × HeaderValue)) : Fields :=
  row.foldl (fun f e => f.set e.1 e.2) f

variable {row next : List (HeaderName × HeaderValue)}

@[simp] theorem setAll_nil : f.setAll [] = f := rfl

@[simp] theorem setAll_cons (e : HeaderName × HeaderValue) :
    f.setAll (e :: row) = (f.set e.1 e.2).setAll row := rfl

theorem values_setAll (hnot : a ∉ row.map (·.1)) : (f.setAll row).values a = f.values a := by
  induction row generalizing f with
  | nil => rfl
  | cons e rest ih =>
      rw [List.map_cons, List.mem_cons, not_or] at hnot
      rw [setAll_cons, ih hnot.2, values_set, if_neg (Ne.symm hnot.1)]

/-- Setting the same row keeps an agreement on a name. -/
theorem values_setAll_congr {g : Fields} (hvalues : f.values a = g.values a)
    (row : List (HeaderName × HeaderValue)) :
    (f.setAll row).values a = (g.setAll row).values a := by
  induction row generalizing f g with
  | nil => exact hvalues
  | cons e rest ih =>
      apply ih
      rw [values_set, values_set, hvalues]

theorem contains_setAll (hnot : a ∉ row.map (·.1)) : (f.setAll row).contains a = f.contains a := by
  rw [Bool.eq_iff_iff, contains_eq_true_iff, contains_eq_true_iff, values_setAll hnot]

theorem set_setAll (hnot : a ∉ row.map (·.1)) (hmem : f.contains a = true) :
    (f.setAll row).set a v = (f.set a v).setAll row := by
  induction row generalizing f with
  | nil => rfl
  | cons e rest ih =>
      rw [List.map_cons, List.mem_cons, not_or] at hnot
      have hstays : (f.set e.1 e.2).contains a = true := by rw [contains_set, hmem, Bool.true_or]
      rw [setAll_cons, setAll_cons, ih hnot.2 hstays, set_comm hnot.1 hmem]

/-- A row over a row of the same names is that row alone. -/
theorem setAll_setAll (hnames : row.map (·.1) = next.map (·.1)) (hnodup : (row.map (·.1)).Nodup) :
    (f.setAll row).setAll next = f.setAll next := by
  induction row generalizing next f with
  | nil =>
      rw [List.map_eq_nil_iff.1 hnames.symm]
      rfl
  | cons e rest ih =>
      cases next with
      | nil => cases hnames
      | cons e' next =>
          rw [List.map_cons, List.map_cons, List.cons.injEq] at hnames
          rw [List.map_cons, List.nodup_cons] at hnodup
          have hmem : (f.set e.1 e.2).contains e.1 = true := by simp [contains_set]
          rw [setAll_cons, setAll_cons, setAll_cons, ← hnames.1, set_setAll hnodup.1 hmem, set_set,
            ih hnames.2 hnodup.2]

end ServiceCall.Fields
