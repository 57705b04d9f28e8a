import ServiceCall.Http.Visible
import ServiceCall.Proofs.Text.Joins
import ServiceCall.Proofs.Text.Utf8
import ServiceCall.Web.Form

/-!
# Forms are read as they were written

A byte is written as itself, as a plus sign or as a percent sign with two digits.  A plus sign that
belongs to the text is percent encoded, so the plus signs may be turned into spaces first and the
percent signs read after.  No separator stands in what was written, and the two splits undo the two
joins.
-/

namespace ServiceCall.Percent

theorem decode_cons {b : UInt8} (hb : b ≠ sign) (rest : Bytes) :
    decode (b :: rest) = b :: decode rest := by
  match rest with
  | [] => rfl
  | [_] => rfl
  | _ :: _ :: _ => rw [decode, if_neg hb]

theorem value?_upper : ∀ n < 16,
    Hex.value? (Char.ofNat (UInt8.ofNat (Hex.digit n).toUpper.toNat).toNat) = some n := by decide

/-- A percent sign and the two digits of a byte are read as the byte. -/
theorem decode_sign (b : UInt8) (rest : Bytes) :
    decode ((encodeByte b).map (fun c => UInt8.ofNat c.toNat) ++ rest) = b :: decode rest := by
  have hb : b.toNat < 256 := b.toNat_lt
  have hvalue : b.toNat / 16 * 16 + b.toNat % 16 = b.toNat := by omega
  simp only [encodeByte, List.map_cons, List.map_nil, List.cons_append, List.nil_append]
  rw [decode, if_pos (by decide), byte?, value?_upper _ (by omega), value?_upper _ (by omega)]
  simp only [Option.bind_eq_bind, Option.bind_some, Option.pure_def, hvalue, UInt8.ofNat_toNat]

end ServiceCall.Percent

namespace ServiceCall.Form

/-- What a character of a form stands for before the percent signs are read. -/
def spaced (c : Char) : Char := if c = '+' then ' ' else c

/-- The characters that may stand in an encoded name or value. -/
def isCodeChar (c : Char) : Bool := c.isAlphanum || "*-._+%".toList.contains c

theorem isVisibleChar_spaced {c : Char} (hc : isCodeChar c = true) :
    isVisibleChar (spaced c) = true := by
  rw [spaced]
  split
  · decide
  · exact isVisibleChar_of_or (by decide) hc

theorem code_digit : ∀ n < 16, isCodeChar (Hex.digit n).toUpper = true ∧
    spaced (Hex.digit n).toUpper = (Hex.digit n).toUpper := by decide

theorem code_percent (b : UInt8) :
    (Percent.encodeByte b).all isCodeChar = true ∧
      (Percent.encodeByte b).map spaced = Percent.encodeByte b := by
  have hb : b.toNat < 256 := b.toNat_lt
  obtain ⟨hhigh, hhighSame⟩ := code_digit (b.toNat / 16) (by omega)
  obtain ⟨hlow, hlowSame⟩ := code_digit (b.toNat % 16) (by omega)
  have hsign : isCodeChar '%' = true ∧ spaced '%' = '%' := by decide
  simp only [Percent.encodeByte, List.all_cons, List.all_nil, List.map_cons, List.map_nil, hhigh,
    hhighSame, hlow, hlowSame, hsign, Bool.and_self, and_self]

theorem code_plain {b : UInt8} (hplain : isPlain b = true) :
    isCodeChar (Char.ofNat b.toNat) = true := by
  simp only [isPlain, Bool.or_eq_true, beq_iff_eq] at hplain
  simp only [isCodeChar, Bool.or_eq_true]
  rcases hplain with (((halnum | hchar) | hchar) | hchar) | hchar
  · exact .inl halnum
  all_goals exact .inr (hchar ▸ by decide)

theorem code_encodeByte (b : UInt8) : (encodeByte b).all isCodeChar = true := by
  rw [encodeByte]
  split
  · simpa using code_plain ‹_›
  · split
    · decide
    · exact (code_percent b).1

theorem code_encode (s : Text) : (encode s).all isCodeChar = true := by
  simp only [encode, List.all_flatMap, code_encodeByte, List.all_eq_true, implies_true]

/-- One byte of a name or value, read back with whatever follows it. -/
theorem decode_encodeByte (b : UInt8) (rest : Bytes) :
    Percent.decode (((encodeByte b).map spaced).map (fun c => UInt8.ofNat c.toNat) ++ rest) =
      b :: Percent.decode rest := by
  rw [encodeByte]
  split
  · rename_i hplain
    have hsign : b ≠ Percent.sign := by
      rintro rfl
      exact absurd hplain (by decide)
    have hspaced : spaced (Char.ofNat b.toNat) = Char.ofNat b.toNat := by
      refine if_neg fun hplus => ?_
      rw [isPlain, hplus] at hplain
      exact absurd hplain (by decide)
    have hchar : (Char.ofNat b.toNat).toNat = b.toNat := by
      have hvalid : b.toNat.isValidChar := .inl (Nat.lt_trans b.toNat_lt (by decide))
      rw [Char.ofNat, dif_pos hvalid]
      rfl
    simp only [List.map_cons, List.map_nil, hspaced, hchar, UInt8.ofNat_toNat]
    exact Percent.decode_cons hsign rest
  · split
    · rename_i hspace
      rw [hspace]
      exact Percent.decode_cons (by decide) rest
    · rw [(code_percent b).2]
      exact Percent.decode_sign b rest

theorem decode_bytes (bytes : Bytes) :
    Percent.decode (((bytes.flatMap encodeByte).map spaced).map fun c => UInt8.ofNat c.toNat) =
      bytes := by
  induction bytes with
  | nil => rfl
  | cons b rest ih =>
      rw [List.flatMap_cons, List.map_append, List.map_append, decode_encodeByte, ih]

/-- A name or a value is read as it was written. -/
theorem decode_encode (s : Text) : decode (encode s) = s := by
  have hvisible : Text.isVisible ((encode s).map spaced) = true := by
    simp only [Text.isVisible, List.all_map, List.all_eq_true, Function.comp_apply]
    exact fun c hc => isVisibleChar_spaced (List.all_eq_true.1 (code_encode s) c hc)
  have hbytes : Utf8.encode ((encode s).map spaced) =
      ((encode s).map spaced).map fun c => UInt8.ofNat c.toNat := encode_of_isVisible hvisible
  calc
    decode (encode s) =
        Utf8.decodeLossy (Percent.decode (Utf8.encode ((encode s).map spaced))) := rfl
    _ = Utf8.decodeLossy (Utf8.encode s) := by
      rw [hbytes]
      exact congrArg Utf8.decodeLossy (decode_bytes (Utf8.encode s))
    _ = s := Utf8.decodeLossy_encode s

/-- A character that no name or value is written with. -/
theorem not_mem_encode {c : Char} (hc : isCodeChar c = false) (s : Text) : c ∉ encode s :=
  fun hmem => Bool.false_ne_true (hc.symm.trans (List.all_eq_true.1 (code_encode s) c hmem))

theorem splitPair_writePair (pair : Text × Text) :
    splitPair (writePair pair) = (encode pair.1, encode pair.2) := by
  rw [splitPair, writePair, Text.splitOnce_append _ _ _ (not_mem_encode (by decide) pair.1)]

theorem not_mem_writePair {c : Char} (hc : isCodeChar c = false) (hequals : c ≠ '=')
    (pair : Text × Text) : c ∉ writePair pair := by
  simp only [writePair, List.mem_append, List.mem_cons, not_or]
  exact ⟨not_mem_encode hc pair.1, hequals, not_mem_encode hc pair.2⟩

/-- Of the marks that mean something in a query, the ampersand and the equals sign alone are
written. -/
theorem not_mem_serialize {c : Char} (hc : isCodeChar c = false) (hequals : c ≠ '=')
    (hampersand : c ≠ '&') (pairs : List (Text × Text)) : c ∉ serialize pairs := by
  intro hmem
  rcases Text.mem_join hmem with hseparator | ⟨piece, hpiece, hmem⟩
  · exact hampersand (List.mem_singleton.1 hseparator)
  · obtain ⟨pair, _, rfl⟩ := List.mem_map.1 hpiece
    exact not_mem_writePair hc hequals pair hmem

/-- A list of pairs is read as it was written. -/
theorem parse_serialize (pairs : List (Text × Text)) : parse (serialize pairs) = pairs := by
  by_cases hpairs : pairs = []
  · rw [hpairs]
    rfl
  · have hsplit : Text.splitAll '&' (serialize pairs) = pairs.map writePair := by
      refine Text.splitAll_join (by simpa using hpairs) fun piece hpiece => ?_
      obtain ⟨pair, _, rfl⟩ := List.mem_map.1 hpiece
      exact not_mem_writePair (by decide) (by decide) pair
    have hfull : ∀ piece ∈ pairs.map writePair, (!piece.isEmpty) = true := by
      intro piece hpiece
      obtain ⟨pair, _, rfl⟩ := List.mem_map.1 hpiece
      simp [writePair]
    rw [parse, hsplit, List.filter_eq_self.2 hfull, List.map_map]
    refine (List.map_congr_left fun pair _ => ?_).trans (List.map_id pairs)
    simp only [Function.comp_apply, splitPair_writePair, decode_encode, id]

end ServiceCall.Form
