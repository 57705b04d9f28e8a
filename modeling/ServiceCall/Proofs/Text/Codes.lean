import ServiceCall.Signing.Canonical

/-!
# Codes

A code whose words do not begin one another can be read back from any concatenation of its words.
The bytes of characters are such a code, and so are the texts of bytes in the canonical encoding.
-/

namespace ServiceCall

/-- A code in which the end of a word can be told whatever follows it. -/
structure SelfEnding {α β : Type} (code : α → List β) : Prop where
  ne_nil : ∀ a, code a ≠ []
  append : ∀ {a b : α} {s t : List β}, code a ++ s = code b ++ t → a = b ∧ s = t

theorem SelfEnding.flatMap_injective {α β : Type} {code : α → List β} (hcode : SelfEnding code)
    {left right : List α} (heq : left.flatMap code = right.flatMap code) : left = right := by
  induction left generalizing right with
  | nil =>
      cases right with
      | nil => rfl
      | cons b others =>
          rw [List.flatMap_cons] at heq
          exact absurd (List.append_eq_nil_iff.1 heq.symm).1 (hcode.ne_nil b)
  | cons a rest ih =>
      cases right with
      | nil =>
          rw [List.flatMap_cons] at heq
          exact absurd (List.append_eq_nil_iff.1 heq).1 (hcode.ne_nil a)
      | cons b others =>
          rw [List.flatMap_cons, List.flatMap_cons] at heq
          obtain ⟨rfl, hrest⟩ := hcode.append heq
          rw [ih hrest]

namespace Utf8

theorem selfEnding_encodeChar : SelfEnding String.utf8EncodeChar where
  ne_nil _ := String.utf8EncodeChar_ne_nil
  append {a b s t} heq := by
    have hbytes := congrArg List.toByteArray heq
    rw [List.toByteArray_append, List.toByteArray_append] at hbytes
    have hchar : some a = some b := by
      rw [← ByteArray.utf8DecodeChar?_utf8EncodeChar_append (b := s.toByteArray), hbytes,
        ByteArray.utf8DecodeChar?_utf8EncodeChar_append]
    obtain rfl := Option.some.inj hchar
    exact ⟨rfl, List.append_cancel_left heq⟩

theorem encode_injective {s t : Text} (heq : encode s = encode t) : s = t :=
  selfEnding_encodeChar.flatMap_injective heq

end Utf8

theorem Hex.digit_injective :
    ∀ m < 16, ∀ n < 16, (digit m).toUpper = (digit n).toUpper → m = n := by decide

theorem Percent.encodeByte_injective {a b : UInt8} (heq : encodeByte a = encodeByte b) : a = b := by
  have ha : a.toNat < 256 := a.toNat_lt
  have hb : b.toNat < 256 := b.toNat_lt
  simp only [encodeByte, List.cons.injEq, and_true, true_and] at heq
  have hhigh := Hex.digit_injective _ (by omega) _ (by omega) heq.1
  have hlow := Hex.digit_injective _ (by omega) _ (by omega) heq.2
  exact UInt8.toNat.inj (by omega)

namespace Canonical

/-- The characters of the canonical encoding. -/
def isEncodedChar (c : Char) : Bool :=
  c.isAlphanum || c == '-' || c == '_' || c == '.' || c == '~' || c == '%'

theorem ofNat_ne_percent {b : UInt8} (hb : isUnreserved b = true) : Char.ofNat b.toNat ≠ '%' := by
  intro heq
  rw [isUnreserved, heq] at hb
  exact absurd hb (by decide)

theorem ofNat_injective {a b : UInt8} (heq : Char.ofNat a.toNat = Char.ofNat b.toNat) : a = b := by
  have htoNat (x : UInt8) : (Char.ofNat x.toNat).toNat = x.toNat := by
    have hlt : x.toNat < 256 := x.toNat_lt
    rw [Char.ofNat, dif_pos (.inl (by omega))]
    rfl
  have hnat := congrArg Char.toNat heq
  rw [htoNat, htoNat] at hnat
  exact UInt8.toNat.inj hnat

theorem selfEnding_encodeByte : SelfEnding encodeByte where
  ne_nil a := by
    unfold encodeByte
    split
    · exact List.cons_ne_nil _ _
    · exact List.cons_ne_nil _ _
  append {a b s t} heq := by
    cases ha : isUnreserved a with
    | true =>
        cases hb : isUnreserved b with
        | true =>
            simp only [encodeByte, ha, hb, if_true, List.cons_append, List.nil_append,
              List.cons.injEq] at heq
            exact ⟨ofNat_injective heq.1, heq.2⟩
        | false =>
            simp only [encodeByte, ha, hb, if_true, Bool.false_eq_true, if_false,
              Percent.encodeByte, List.cons_append, List.cons.injEq] at heq
            exact absurd heq.1 (ofNat_ne_percent ha)
    | false =>
        cases hb : isUnreserved b with
        | true =>
            simp only [encodeByte, ha, hb, if_true, Bool.false_eq_true, if_false,
              Percent.encodeByte, List.cons_append, List.cons.injEq] at heq
            exact absurd heq.1.symm (ofNat_ne_percent hb)
        | false =>
            simp only [encodeByte, ha, hb, Bool.false_eq_true, if_false] at heq
            obtain ⟨hbyte, hrest⟩ := List.append_inj heq rfl
            exact ⟨Percent.encodeByte_injective hbyte, hrest⟩

theorem encode_injective {s t : Text} (heq : encode s = encode t) : s = t :=
  Utf8.encode_injective (selfEnding_encodeByte.flatMap_injective heq)

theorem isEncodedChar_of_mem {c : Char} {s : Text} (hc : c ∈ encode s) :
    isEncodedChar c = true := by
  have hdigit : ∀ n < 16, isEncodedChar (Hex.digit n).toUpper = true := by decide
  obtain ⟨b, -, hb⟩ := List.mem_flatMap.1 hc
  have hlt : b.toNat < 256 := b.toNat_lt
  cases hplain : isUnreserved b with
  | true =>
      simp only [encodeByte, hplain, if_true, List.mem_singleton] at hb
      subst hb
      exact Bool.or_eq_true_iff.2 (.inl hplain)
  | false =>
      simp only [encodeByte, hplain, Bool.false_eq_true, if_false, Percent.encodeByte,
        List.mem_cons, List.not_mem_nil, or_false] at hb
      rcases hb with rfl | rfl | rfl
      · decide
      · exact hdigit _ (by omega)
      · exact hdigit _ (by omega)

end Canonical

end ServiceCall
