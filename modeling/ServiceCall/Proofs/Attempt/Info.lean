import ServiceCall.Attempt.Info
import ServiceCall.Proofs.Text.Joins
import ServiceCall.Proofs.Text.Words
import ServiceCall.Proofs.Time.Stamp

/-!
# Attempt information read back

The number of an attempt, the most attempts of its call and its deadline are found again by their
names in the text that tells of them, and nothing else is found under these names.
-/

namespace ServiceCall

namespace Text

/-- Trimming stops at a character that is not blank. -/
theorem trim_eq {lead : Text} {first last : Char} (front : Text)
    (hlead : ∀ c ∈ lead, isBlank c = true) (hfirst : isBlank first = false)
    (hlast : isBlank last = false) :
    trim (lead ++ first :: (front ++ [last])) = first :: (front ++ [last]) := by
  have hstart : trimStart isBlank (lead ++ first :: (front ++ [last])) =
      first :: front ++ [last] := by
    rw [trimStart, List.dropWhile_append_of_pos hlead]
    exact List.dropWhile_cons_of_neg (Bool.eq_false_iff.1 hfirst)
  rw [trim, hstart, trimEnd_concat, hlast]
  rfl

end Text

/-- A value of visible text is read as that text. -/
theorem HeaderValue.text?_ofVisible {s : Text} (hvisible : Text.isVisible s = true) :
    (HeaderValue.ofVisible s hvisible).text? = some s := by
  have hchar (c : Char) (hc : c ∈ s) : (UInt8.ofNat c.toNat).toNat = c.toNat ∧
      isVisibleByte (UInt8.ofNat c.toNat) = true := by
    have hrange := List.all_eq_true.1 hvisible c hc
    simp only [isVisibleChar, Bool.and_eq_true, decide_eq_true_eq] at hrange
    have hsmall : ∀ n < 127, 32 ≤ n → (UInt8.ofNat n).toNat = n ∧
        isVisibleByte (UInt8.ofNat n) = true := by decide
    exact hsmall c.toNat (by omega) hrange.1
  have hbytes : (HeaderValue.ofVisible s hvisible).bytes = s.map fun c => UInt8.ofNat c.toNat :=
    encode_of_isVisible hvisible
  rw [text?, hbytes, if_pos]
  · rw [List.map_map, Option.some.injEq]
    refine (List.map_congr_left fun c hc => ?_).trans (List.map_id s)
    rw [Function.comp_apply, (hchar c hc).1, Char.ofNat_toNat]
    rfl
  · simp only [List.all_map, List.all_eq_true, Function.comp_apply]
    exact fun c hc => (hchar c hc).2

namespace AttemptInfo

/-! ## What is written -/

theorem not_mem_numeral {c : Char} (hc : c.isDigit = false) (n : Nat) : c ∉ Numeral.ofNat n := by
  intro hmem
  have hdigit := List.all_eq_true.1 (Numeral.ofNat_all_isDigit n) c hmem
  rw [hc] at hdigit
  cases hdigit

theorem not_mem_padded {c : Char} (hc : c.isDigit = false) (width n : Nat) :
    c ∉ Numeral.padded width n := by
  intro hmem
  have hdigit := List.all_eq_true.1 (Numeral.padded_all_isDigit width n) c hmem
  rw [hc] at hdigit
  cases hdigit

theorem semicolon_not_mem_stamp (t : Instant) : ';' ∉ Stamp.format t := by
  have hpadded (width n : Nat) : ';' ∉ Numeral.padded width n := not_mem_padded (by decide) width n
  have hyear (year : Int) : ';' ∉ Stamp.yearText year := by
    rw [Stamp.yearText]
    split
    · exact hpadded _ _
    · split <;> simp [hpadded]
  simp [Stamp.format, Stamp.dateText, hpadded, hyear]

/-- The last characters of numbers and stamps. -/
theorem exists_numeral (n : Nat) :
    ∃ front last, Numeral.ofNat n = front ++ [last] ∧ isBlank last = false := by
  have hne : Numeral.ofNat n ≠ [] := Nat.toDigits_ne_nil
  have hdigits := List.all_eq_true.1 (Numeral.ofNat_all_isDigit n)
  exact ⟨_, _, (List.dropLast_append_getLast hne).symm,
    isBlank_of_isDigit (hdigits _ (List.getLast_mem hne))⟩

/-! ## What is read -/

/-- The name and the value that a part reads as. -/
def named? (part : Text) : Option (Text × Text) := Text.splitOnce '=' (Text.trim part)

theorem named?_eq {name value : Text} (lead : Text) (hlead : ∀ c ∈ lead, isBlank c = true)
    (hname : ∃ first later, name = first :: later ∧ isBlank first = false) (hfree : '=' ∉ name)
    (hvalue : ∃ front last, value = front ++ [last] ∧ isBlank last = false) :
    named? (lead ++ name ++ '=' :: value) = some (name, value) := by
  obtain ⟨first, later, rfl, hfirst⟩ := hname
  obtain ⟨front, last, rfl, hlast⟩ := hvalue
  have htrim := Text.trim_eq (later ++ '=' :: front) hlead hfirst hlast
  simp only [List.append_assoc, List.cons_append] at htrim ⊢
  rw [named?, htrim]
  exact Text.splitOnce_append '=' (first :: later) _ hfree

/-- A part is looked up among the names and values that the parts read as. -/
theorem part?_eq (text name : Text) : part? text name =
    ((Text.splitAll ';' text).filterMap named?).lookup name := by
  rw [part?]
  generalize Text.splitAll ';' text = parts
  induction parts with
  | nil => rfl
  | cons part rest ih =>
      rw [List.findSome?_cons, List.filterMap_cons, named?]
      cases Text.splitOnce '=' (Text.trim part) with
      | none => exact ih
      | some named =>
          obtain ⟨key, value⟩ := named
          by_cases hkey : key = name
          · simp [hkey]
          · have hdiffers : (name == key) = false := by simpa using Ne.symm hkey
            simp only [if_neg hkey, List.lookup_cons, hdiffers]
            exact ih

/-- The parts of the text. -/
def parts (i : AttemptInfo) : List Text :=
  ["attempt".toList ++ '=' :: Numeral.ofNat i.attempt,
    " max".toList ++ '=' :: Numeral.ofNat i.limit] ++
  (i.deadline.map fun t => " ttl".toList ++ '=' :: Stamp.format t).toList

theorem text_eq_join (i : AttemptInfo) : i.text = Text.join [';'] i.parts := by
  have hfirst : "attempt=".toList = "attempt".toList ++ ['='] := by decide
  have hsecond : "; max=".toList = ';' :: (" max".toList ++ ['=']) := by decide
  have hthird : "; ttl=".toList = ';' :: (" ttl".toList ++ ['=']) := by decide
  unfold text parts
  simp only [hfirst, hsecond, hthird]
  generalize "attempt".toList = first, " max".toList = second, " ttl".toList = third
  cases i.deadline with
  | none => simp [Text.join]
  | some t => simp [Text.join]

theorem splitAll_text (i : AttemptInfo) : Text.splitAll ';' i.text = i.parts := by
  rw [text_eq_join]
  refine Text.splitAll_join (List.cons_ne_nil _ _) fun part hpart => ?_
  have hnumeral (n : Nat) : ';' ∉ Numeral.ofNat n := not_mem_numeral (by decide) n
  simp only [parts, List.mem_append, List.mem_cons, List.not_mem_nil, or_false, Option.mem_toList,
    Option.map_eq_some_iff] at hpart
  rcases hpart with (rfl | rfl) | ⟨t, -, rfl⟩
  · simp [hnumeral]
  · simp [hnumeral]
  · simp [semicolon_not_mem_stamp]

/-- Each part of the text is found by its name. -/
theorem part?_text (i : AttemptInfo) :
    part? i.text "attempt".toList = some (Numeral.ofNat i.attempt) ∧
      part? i.text "max".toList = some (Numeral.ofNat i.limit) ∧
      part? i.text "ttl".toList = i.deadline.map Stamp.format := by
  have hattempt : named? ("attempt".toList ++ '=' :: Numeral.ofNat i.attempt) =
      some ("attempt".toList, Numeral.ofNat i.attempt) :=
    named?_eq [] (List.forall_mem_nil _) ⟨_, _, rfl, by decide⟩ (by decide) (exists_numeral _)
  have hlimit : named? (" max".toList ++ '=' :: Numeral.ofNat i.limit) =
      some ("max".toList, Numeral.ofNat i.limit) :=
    named?_eq [' '] (List.forall_mem_singleton.2 rfl) ⟨_, _, rfl, by decide⟩ (by decide)
      (exists_numeral _)
  have hstamp (t : Instant) : named? (" ttl".toList ++ '=' :: Stamp.format t) =
      some ("ttl".toList, Stamp.format t) :=
    named?_eq [' '] (List.forall_mem_singleton.2 rfl) ⟨_, _, rfl, by decide⟩ (by decide)
      ⟨_, 'Z', rfl, by decide⟩
  rw [part?_eq, part?_eq, part?_eq, splitAll_text, parts]
  cases i.deadline with
  | none =>
      simp only [Option.map_none, Option.toList_none, List.append_nil, List.filterMap_cons,
        List.filterMap_nil, hattempt, hlimit]
      exact ⟨rfl, rfl, rfl⟩
  | some t =>
      simp only [Option.map_some, Option.toList_some, List.cons_append, List.nil_append,
        List.filterMap_cons, List.filterMap_nil, hattempt, hlimit, hstamp]
      exact ⟨rfl, rfl, rfl⟩

end AttemptInfo

end ServiceCall
