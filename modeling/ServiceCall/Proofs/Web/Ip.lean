import Mathlib.Data.List.Basic
import ServiceCall.Proofs.Text.Ascii
import ServiceCall.Proofs.Text.Joins
import ServiceCall.Web.Ip

/-!
# Numeric hosts

The two forms of addresses are written with few characters.  Whether a name is taken for an address
is up to its last label, whatever stands before the point in front of it, and not to the case of
its letters.
-/

namespace ServiceCall.Ip

/-! ## What is written -/

theorem isAlphanum_digitChar : ∀ n < 16, (Nat.digitChar n).isAlphanum = true := by decide

theorem isAlphanum_toDigits (n : Nat) : ∀ c ∈ Nat.toDigits 16 n, c.isAlphanum = true := by
  induction n using Nat.strongRecOn with
  | _ n ih =>
      rw [Nat.toDigits_eq_if (by decide)]
      split
      · exact List.forall_mem_singleton.2 (isAlphanum_digitChar n ‹_›)
      · refine List.forall_mem_append.2 ⟨ih (n / 16) (by omega), ?_⟩
        exact List.forall_mem_singleton.2 (isAlphanum_digitChar _ (Nat.mod_lt n (by decide)))

theorem forall_wordsText {p : Char → Prop} (halnum : ∀ c, c.isAlphanum = true → p c)
    (hcolon : p ':') (words : List Nat) : ∀ c ∈ wordsText words, p c := by
  intro c hc
  rcases Text.mem_join hc with hseparator | ⟨word, hword, hmem⟩
  · exact List.mem_singleton.1 hseparator ▸ hcolon
  · obtain ⟨n, -, rfl⟩ := List.mem_map.1 hword
    exact halnum c (isAlphanum_toDigits n c hmem)

/-- A newer address is written with letters, digits and colons. -/
theorem forall_newerText {p : Char → Prop} (halnum : ∀ c, c.isAlphanum = true → p c)
    (hcolon : p ':') (words : List Nat) : ∀ c ∈ newerText words, p c := by
  rw [newerText]
  split
  · exact forall_wordsText halnum hcolon words
  · refine List.forall_mem_append.2 ⟨List.forall_mem_append.2 ⟨?_, ?_⟩, ?_⟩
    · exact forall_wordsText halnum hcolon _
    · exact List.forall_mem_cons.2 ⟨hcolon, List.forall_mem_singleton.2 hcolon⟩
    · exact forall_wordsText halnum hcolon _

/-- An older address is written with digits and points. -/
theorem forall_olderText {p : Char → Prop} (hdigit : ∀ c, c.isDigit = true → p c)
    (hpoint : p '.') (n : Nat) : ∀ c ∈ olderText n, p c := by
  intro c hc
  rcases Text.mem_join hc with hseparator | ⟨part, hpart, hmem⟩
  · exact List.mem_singleton.1 hseparator ▸ hpoint
  · obtain ⟨i, -, rfl⟩ := List.mem_map.1 hpart
    exact hdigit c (List.all_eq_true.1 (Numeral.ofNat_all_isDigit _) c hmem)

theorem olderText_ne_nil (n : Nat) : olderText n ≠ [] := by
  rw [olderText, List.map_cons, Text.join_cons (by simp)]
  simp

/-! ## Names that are numbers -/

theorem base_lower (part : Text) :
    base (Text.lower part) = ((base part).1, Text.lower (base part).2) := by
  have hzero : (Text.lower part).head? = some '0' ↔ part.head? = some '0' := by
    cases part with
    | nil => exact Iff.rfl
    | cons c rest =>
        simpa [Text.lower] using
          decide_eq_decide.1 (eq_toLower (fun c => decide (c = '0')) (by decide) c)
  unfold base
  rw [Text.lower_lower]
  simp only [Text.length_lower, Text.drop_lower, hzero]
  split
  · rfl
  · split <;> rfl

theorem part?_lower (part : Text) : part? (Text.lower part) = part? part := by
  have hdigits (base : Nat) (digits : Text) (n : Nat) :
      (Text.lower digits).foldlM (fun n c => (Hex.value? c).bind fun d =>
          if d < base then some (n * base + d) else none) n =
        digits.foldlM (fun n c => (Hex.value? c).bind fun d =>
          if d < base then some (n * base + d) else none) n := by
    rw [Text.lower, List.foldlM_map]
    simp only [eq_toLower Hex.value? (by decide)]
  have hempty : (Text.lower part).isEmpty = part.isEmpty := List.isEmpty_map ..
  rw [part?, part?, hempty, base_lower]
  dsimp only
  rw [hdigits]

/-- The last label of a name; an empty one at the end does not count. -/
def lastLabel? (labels : List Text) : Option Text :=
  if labels.getLast? = some [] then labels.dropLast.getLast? else labels.getLast?

theorem lastLabel?_lower (labels : List Text) :
    lastLabel? (labels.map Text.lower) = (lastLabel? labels).map Text.lower := by
  have hempty : (labels.map Text.lower).getLast? = some [] ↔ labels.getLast? = some [] := by
    rw [List.getLast?_map, Option.map_eq_some_iff]
    constructor
    · rintro ⟨label, hlast, hlower⟩
      rw [hlast, List.map_eq_nil_iff.1 hlower]
    · exact fun hlast => ⟨[], hlast, rfl⟩
  rw [lastLabel?, lastLabel?, List.getLast?_map] at *
  simp only [hempty]
  split
  · rw [← List.map_dropLast, List.getLast?_map]
  · rfl

theorem lastLabel?_append (before : List Text) {labels : List Text} (hfull : labels ≠ [])
    (hlabels : labels ≠ [[]]) : lastLabel? (before ++ labels) = lastLabel? labels := by
  rw [lastLabel?, lastLabel?, List.getLast?_append_of_ne_nil _ hfull]
  split
  · rename_i hlast
    have hshorter : labels.dropLast ≠ [] := by
      intro hnil
      obtain ⟨init, last, rfl⟩ := (List.eq_nil_or_concat' labels).resolve_left hfull
      rw [List.dropLast_concat] at hnil
      rw [hnil, List.getLast?_append_of_ne_nil _ (List.cons_ne_nil _ _)] at hlast
      cases hlast
      exact hlabels (by rw [hnil]; rfl)
    rw [List.dropLast_append_of_ne_nil hfull, List.getLast?_append_of_ne_nil _ hshorter]
  · rfl

theorem endsInNumber_eq (s : Text) :
    endsInNumber s = (lastLabel? (Text.splitAll '.' s)).any fun part =>
      !part.isEmpty && (part.all Char.isDigit || (part? part).isSome) := by
  unfold endsInNumber
  dsimp only
  rw [← lastLabel?]
  cases lastLabel? (Text.splitAll '.' s) with
  | none => rfl
  | some part =>
      cases part with
      | nil => rfl
      | cons => rfl

/-- Whether a name is taken for a number does not depend on the case of its letters. -/
theorem endsInNumber_lower (s : Text) : endsInNumber (Text.lower s) = endsInNumber s := by
  have hpart (part : Text) :
      ((Text.lower part).all Char.isDigit || (part? (Text.lower part)).isSome) =
        (part.all Char.isDigit || (part? part).isSome) := by
    have hdigits : (Text.lower part).all Char.isDigit = part.all Char.isDigit := by
      rw [Text.lower, List.all_map]
      exact congrArg part.all (funext fun c => eq_toLower Char.isDigit (by decide) c)
    rw [part?_lower, hdigits]
  rw [endsInNumber_eq, endsInNumber_eq, Text.splitAll_lower (by decide), lastLabel?_lower]
  cases lastLabel? (Text.splitAll '.' s) with
  | none => rfl
  | some part =>
      rw [Option.map_some, Option.any_some, Option.any_some, hpart, Text.lower, List.isEmpty_map]

/-- Only what follows a point within a name says whether the name is a number. -/
theorem endsInNumber_append (s : Text) {t : Text} (ht : t ≠ []) :
    endsInNumber (s ++ '.' :: t) = endsInNumber t := by
  rw [endsInNumber_eq, endsInNumber_eq, Text.splitAll_append_separator, lastLabel?_append]
  · exact Text.splitAll_ne_nil '.' t
  · intro hsplit
    have hjoin := Text.join_splitAll '.' t
    rw [hsplit] at hjoin
    exact ht hjoin.symm

/-- Letters in front of the first label do not make a number of a name with several labels. -/
theorem endsInNumber_prefixed (label : Text) {host : Text} (hpoint : '.' ∈ host.dropLast) :
    endsInNumber (Text.lower (label ++ host)) = endsInNumber host := by
  rcases List.eq_nil_or_concat' host with rfl | ⟨init, last, rfl⟩
  · exact absurd hpoint List.not_mem_nil
  · rw [List.dropLast_concat] at hpoint
    obtain ⟨before, after, rfl⟩ := List.append_of_mem hpoint
    have hafter : after ++ [last] ≠ [] :=
      List.append_ne_nil_of_right_ne_nil _ (List.cons_ne_nil _ _)
    rw [endsInNumber_lower, List.append_assoc, List.cons_append, ← List.append_assoc,
      endsInNumber_append _ hafter, endsInNumber_append _ hafter]

end ServiceCall.Ip
