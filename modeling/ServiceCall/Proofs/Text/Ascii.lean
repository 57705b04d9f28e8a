import ServiceCall.Http.Visible

/-!
# Characters in ASCII

What holds of all characters in ASCII can be checked for each of them.  Letters and digits are such
characters, and so are the small letters of others.
-/

namespace ServiceCall

variable {c : Char}

theorem of_ascii {p : Char → Prop} (hall : ∀ n < 0x80, p (Char.ofNat n)) (hc : c.toNat < 0x80) :
    p c := by
  have hofNat := hall c.toNat hc
  rwa [Char.ofNat_toNat] at hofNat

theorem ascii_of_isVisibleChar (hc : isVisibleChar c = true) : c.toNat < 0x80 := by
  simp only [isVisibleChar, Bool.and_eq_true, decide_eq_true_eq] at hc
  omega

theorem ascii_of_isAlphanum (hc : c.isAlphanum = true) : c.toNat < 0x80 :=
  ascii_of_isVisibleChar (isVisibleChar_of_isAlphanum hc)

theorem toLower_ascii (hc : c.toNat < 0x80) : c.toLower.toNat < 0x80 :=
  of_ascii (p := fun c => c.toLower.toNat < 0x80) (by decide) hc

/-- What is the same for the capital and the small letters of ASCII does not depend on case. -/
theorem eq_toLower {α : Type} (f : Char → α)
    (hascii : ∀ n < 0x80, f (Char.ofNat n).toLower = f (Char.ofNat n)) (c : Char) :
    f c.toLower = f c := by
  by_cases hc : c.toNat < 0x80
  · exact of_ascii (p := fun c => f c.toLower = f c) hascii hc
  · have hlarge : ¬c.val ≤ 'Z'.val := by
      rw [UInt32.le_iff_toNat_le]
      exact fun hle => hc (Nat.lt_of_le_of_lt hle (by decide))
    exact congrArg f (dif_neg fun hrange => hlarge hrange.2)

namespace Text

theorem lower_append (s t : Text) : lower (s ++ t) = lower s ++ lower t :=
  List.map_append

theorem lower_lower (s : Text) : lower (lower s) = lower s := by
  rw [lower, lower, List.map_map]
  exact List.map_congr_left fun c _ => eq_toLower Char.toLower (by decide) c

theorem splitAll_lower {separator : Char}
    (hseparator : ∀ n < 0x80, decide ((Char.ofNat n).toLower = separator) =
      decide (Char.ofNat n = separator)) (s : Text) :
    splitAll separator (lower s) = (splitAll separator s).map lower := by
  induction s with
  | nil => rfl
  | cons c rest ih =>
      obtain ⟨first, others, hsplit⟩ := List.exists_cons_of_ne_nil (splitAll_ne_nil separator rest)
      have hsame : c.toLower = separator ↔ c = separator :=
        decide_eq_decide.1 (eq_toLower (fun c => decide (c = separator)) hseparator c)
      rw [hsplit] at ih
      rw [lower, List.map_cons, splitAll, ← lower, ih, splitAll, hsplit]
      simp only [List.map_cons, hsame]
      split <;> rfl

theorem length_lower (s : Text) : (lower s).length = s.length := List.length_map ..

theorem drop_lower (n : Nat) (s : Text) : (lower s).drop n = lower (s.drop n) :=
  List.map_drop.symm

end Text

end ServiceCall
