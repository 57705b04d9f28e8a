import ServiceCall.Http.Header
import ServiceCall.Text.Base64
import ServiceCall.Text.Hex
import ServiceCall.Text.Numeral

/-!
# Visible text

Text of printable ASCII letters makes a field value without any check.  Numerals, hexadecimal text
and base64 text are visible, so the values that the library writes itself cannot fail.
-/

namespace ServiceCall

def isVisibleChar (c : Char) : Bool := 0x20 ≤ c.toNat && c.toNat ≤ 0x7E

def Text.isVisible (s : Text) : Bool := s.all isVisibleChar

theorem isVisible_append (s t : Text) :
    Text.isVisible (s ++ t) = (Text.isVisible s && Text.isVisible t) := by
  simp [Text.isVisible]

theorem isVisible_cons (c : Char) (s : Text) :
    Text.isVisible (c :: s) = (isVisibleChar c && Text.isVisible s) := by
  simp [Text.isVisible]

theorem isVisibleChar_of_isAlphanum {c : Char} (hletter : c.isAlphanum = true) :
    isVisibleChar c = true := by
  have hranges : (65 ≤ c.toNat ∧ c.toNat ≤ 90 ∨ 97 ≤ c.toNat ∧ c.toNat ≤ 122) ∨
      48 ≤ c.toNat ∧ c.toNat ≤ 57 := by
    change ((decide (65 ≤ c.val ∧ c.val ≤ 90) || (decide (97 ≤ c.val) && decide (c.val ≤ 122))) ||
      (decide (48 ≤ c.val) && decide (c.val ≤ 57))) = true at hletter
    simpa [UInt32.le_iff_toNat_le] using hletter
  simp only [isVisibleChar, Bool.and_eq_true, decide_eq_true_eq]
  omega

/-- Letters, digits and some visible marks are visible. -/
theorem isVisibleChar_of_or {c : Char} {marks : Text} (hmarks : Text.isVisible marks = true)
    (hc : (c.isAlphanum || marks.contains c) = true) : isVisibleChar c = true := by
  rcases Bool.or_eq_true_iff.1 hc with hletter | hmark
  · exact isVisibleChar_of_isAlphanum hletter
  · exact List.all_eq_true.1 hmarks c (List.contains_iff_mem.1 hmark)

theorem encode_visibleChar {c : Char} (h : isVisibleChar c = true) :
    String.utf8EncodeChar c = [UInt8.ofNat c.toNat] := by
  simp only [isVisibleChar, Bool.and_eq_true, decide_eq_true_eq] at h
  have hv : c.val.toNat ≤ 127 := by
    have : c.toNat = c.val.toNat := rfl
    omega
  simp only [String.utf8EncodeChar, hv, ↓reduceIte]
  rfl

/-- A visible text has one byte for each character. -/
theorem encode_of_isVisible {s : Text} (h : Text.isVisible s = true) :
    Utf8.encode s = s.map fun c => UInt8.ofNat c.toNat := by
  induction s with
  | nil => rfl
  | cons c rest ih =>
    rw [isVisible_cons, Bool.and_eq_true] at h
    simp only [Utf8.encode, List.flatMap_cons, List.map_cons, encode_visibleChar h.1]
    have := ih h.2
    simp only [Utf8.encode] at this
    rw [this]
    rfl

private theorem isFieldByte_of_isVisibleChar {c : Char} (h : isVisibleChar c = true) :
    isFieldByte (UInt8.ofNat c.toNat) = true := by
  simp only [isVisibleChar, Bool.and_eq_true, decide_eq_true_eq] at h
  have small : ∀ n < 0x7F, 0x20 ≤ n → isFieldByte (UInt8.ofNat n) = true := by decide
  exact small c.toNat (by omega) h.1

theorem isFieldByte_of_isVisible {s : Text} (h : Text.isVisible s = true) :
    (Utf8.encode s).all isFieldByte = true := by
  rw [encode_of_isVisible h]
  simp only [List.all_map, List.all_eq_true, Function.comp_apply]
  simp only [Text.isVisible, List.all_eq_true] at h
  exact fun c hc => isFieldByte_of_isVisibleChar (h c hc)

/-- The value with a visible text. -/
def HeaderValue.ofVisible (s : Text) (h : Text.isVisible s = true) : HeaderValue :=
  ⟨Utf8.encode s, isFieldByte_of_isVisible h, false⟩

theorem HeaderValue.ofText?_of_isVisible {s : Text} (h : Text.isVisible s = true) :
    HeaderValue.ofText? s = some (HeaderValue.ofVisible s h) := by
  simp [HeaderValue.ofText?, HeaderValue.ofBytes?, isFieldByte_of_isVisible h,
    HeaderValue.ofVisible]

theorem isVisibleChar_of_isDigit {c : Char} (h : c.isDigit = true) : isVisibleChar c = true := by
  simp only [Char.isDigit, Bool.and_eq_true, decide_eq_true_eq] at h
  simp only [isVisibleChar, Bool.and_eq_true, decide_eq_true_eq]
  have h1 := UInt32.le_iff_toNat_le.1 h.1
  have h2 := UInt32.le_iff_toNat_le.1 h.2
  change 0x20 ≤ c.val.toNat ∧ c.val.toNat ≤ 0x7E
  have e1 : (48 : UInt32).toNat = 48 := rfl
  have e2 : (57 : UInt32).toNat = 57 := rfl
  change (48 : UInt32).toNat ≤ c.val.toNat at h1
  change c.val.toNat ≤ (57 : UInt32).toNat at h2
  omega

theorem isVisible_of_all_isDigit {s : Text} (h : s.all Char.isDigit = true) :
    Text.isVisible s = true := by
  simp only [Text.isVisible, List.all_eq_true] at h ⊢
  exact fun c hc => isVisibleChar_of_isDigit (h c hc)

theorem isVisible_numeral (n : Nat) : Text.isVisible (Numeral.ofNat n) = true :=
  isVisible_of_all_isDigit (Numeral.ofNat_all_isDigit n)

theorem isVisible_padded (width n : Nat) : Text.isVisible (Numeral.padded width n) = true := by
  rw [Numeral.padded, isVisible_append, isVisible_numeral, Bool.and_true]
  exact isVisible_of_all_isDigit (by simp)

theorem isVisible_hex (bytes : Bytes) : Text.isVisible (Hex.encode bytes) = true := by
  have digit : ∀ n < 16, isVisibleChar (Hex.digit n) = true := by decide
  induction bytes with
  | nil => rfl
  | cons b rest ih =>
    have hb : b.toNat < 256 := b.toNat_lt
    rw [show Hex.encode (b :: rest) = Hex.encodeByte b ++ Hex.encode rest from rfl,
      isVisible_append, ih, Bool.and_true]
    simp only [Hex.encodeByte, isVisible_cons, Bool.and_eq_true]
    exact ⟨digit _ (by omega), digit _ (by omega), rfl⟩

theorem isVisible_base64 (bytes : Bytes) : Text.isVisible (Base64.encode bytes) = true := by
  have alphabet : Text.isVisible Base64.alphabet = true := by decide +kernel
  have any (n : Nat) : isVisibleChar (Base64.letter n) = true := by
    simp only [Text.isVisible, List.all_eq_true] at alphabet
    rw [Base64.letter, List.getD_eq_getElem?_getD]
    cases h : Base64.alphabet[n % 64]? with
    | none => decide
    | some c => exact alphabet c (List.mem_of_getElem? h)
  have equals : isVisibleChar '=' = true := by decide
  fun_induction Base64.encode bytes with
  | case1 => rfl
  | case2 => simp [Text.isVisible, any, equals]
  | case3 => simp [Text.isVisible, any, equals]
  | case4 a b c rest n ih => simp [isVisible_cons, any, ih]

/-- The value with a decimal number. -/
def HeaderValue.ofNat (n : Nat) : HeaderValue :=
  .ofVisible (Numeral.ofNat n) (isVisible_numeral n)

end ServiceCall
