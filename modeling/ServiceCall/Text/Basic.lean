/-!
# Text and bytes

Text that is taken apart, compared or encoded is a list of characters, and a body or a field value
is a list of bytes.  This module fixes those two names and the cuts that the rest of the library
makes in text: at a separator, at the first separator only, and at both ends.
-/

namespace ServiceCall

abbrev Text := List Char

abbrev Bytes := List UInt8

namespace Text

/-- The text up to the first separator and the text after it, when there is a separator. -/
def splitOnce (separator : Char) : Text → Option (Text × Text)
  | [] => none
  | c :: rest =>
    if c = separator then some ([], rest)
    else (splitOnce separator rest).map fun (before, after) => (c :: before, after)

/-- The pieces between separators; there is always at least one. -/
def splitAll (separator : Char) : Text → List Text
  | [] => [[]]
  | c :: rest =>
    match splitAll separator rest with
    | [] => [[c]]
    | piece :: pieces =>
      if c = separator then [] :: piece :: pieces else (c :: piece) :: pieces

/-- Pieces joined with a separator between neighbours. -/
def join (separator : Text) : List Text → Text
  | [] => []
  | [piece] => piece
  | piece :: pieces => piece ++ separator ++ join separator pieces

/-- Drops every leading character that satisfies the test. -/
def trimStart (p : Char → Bool) (s : Text) : Text := s.dropWhile p

/-- Drops every trailing character that satisfies the test. -/
def trimEnd (p : Char → Bool) (s : Text) : Text := (s.reverse.dropWhile p).reverse

/-- The order of texts: that of their first different characters, or a beginning before the whole.
-/
def le (a b : Text) : Bool := !decide (b < a)

/-- Latin letters in lower case; every other character is kept. -/
def lower (s : Text) : Text := s.map Char.toLower

theorem splitOnce_eq_none_iff (separator : Char) (s : Text) :
    splitOnce separator s = none ↔ separator ∉ s := by
  induction s with
  | nil => simp [splitOnce]
  | cons c rest ih =>
    by_cases h : c = separator
    · simp [splitOnce, h]
    · simp [splitOnce, h, ih, Ne.symm h]

theorem splitOnce_append (separator : Char) (before after : Text) (h : separator ∉ before) :
    splitOnce separator (before ++ separator :: after) = some (before, after) := by
  induction before with
  | nil => simp [splitOnce]
  | cons c rest ih =>
    simp only [List.mem_cons, not_or] at h
    simp [splitOnce, Ne.symm h.1, ih h.2]

theorem splitOnce_eq_some (separator : Char) {s before after : Text}
    (h : splitOnce separator s = some (before, after)) :
    s = before ++ separator :: after ∧ separator ∉ before := by
  induction s generalizing before with
  | nil => simp [splitOnce] at h
  | cons c rest ih =>
    by_cases hc : c = separator
    · simp only [splitOnce, hc, ↓reduceIte, Option.some.injEq, Prod.mk.injEq] at h
      simp [← h.1, ← h.2, hc]
    · simp only [splitOnce, hc, ↓reduceIte, Option.map_eq_some_iff, Prod.mk.injEq] at h
      obtain ⟨⟨b, a⟩, hb, rfl, rfl⟩ := h
      obtain ⟨hs, hn⟩ := ih hb
      exact ⟨by rw [hs]; rfl, by simp [Ne.symm hc, hn]⟩

theorem splitAll_ne_nil (separator : Char) (s : Text) : splitAll separator s ≠ [] := by
  cases s with
  | nil => simp [splitAll]
  | cons c rest =>
    simp only [splitAll]
    split
    · simp
    · split <;> simp

end Text

end ServiceCall
