import ServiceCall.Text.Utf8

/-!
# Reading what was written

The walk over the bytes of a text steps from character to character: the first byte of a character
tells how many follow it, and the low bits of all of them are the number of the character.
-/

namespace ServiceCall.Utf8

/-- A further byte in its range adds its six low bits. -/
theorem continuation_ofNat {n m value : Nat} {lo hi : UInt8} {rest : Bytes} (hm : m < 64)
    (hlo : lo.toNat ≤ m + 0x80) (hhi : m + 0x80 ≤ hi.toNat) :
    continuation (n + 1) lo hi value (UInt8.ofNat (m + 0x80) :: rest) =
      continuation n 0x80 0xBF (value * 64 + m) rest := by
  have hbyte : (UInt8.ofNat (m + 0x80)).toNat = m + 0x80 :=
    UInt8.toNat_ofNat_of_lt' (by simp only [UInt8.size]; omega)
  have hbits : (m + 0x80) % 64 = m := by omega
  have hrange : (decide (lo ≤ UInt8.ofNat (m + 0x80)) &&
      decide (UInt8.ofNat (m + 0x80) ≤ hi)) = true := by
    simp only [UInt8.le_iff_toNat_le, hbyte, hlo, hhi, decide_true, Bool.and_self]
  rw [continuation, if_pos hrange, hbyte, hbits]

/-- A lead byte of a pair tells how many bytes follow and in which range. -/
theorem leads_two : ∀ k < 32, 2 ≤ k →
    ¬UInt8.ofNat (k + 0xC0) < 0x80 ∧ followers (UInt8.ofNat (k + 0xC0)) = some (1, 0x80, 0xBF) ∧
      leadValue 1 (UInt8.ofNat (k + 0xC0)) = k := by decide

/-- Overlong forms and surrogates are excluded by the byte after the first. -/
theorem leads_three : ∀ k < 16,
    ¬UInt8.ofNat (k + 0xE0) < 0x80 ∧
      followers (UInt8.ofNat (k + 0xE0)) =
        some (2, if k = 0 then 0xA0 else 0x80, if k = 13 then 0x9F else 0xBF) ∧
      leadValue 2 (UInt8.ofNat (k + 0xE0)) = k := by decide

/-- So are, here, overlong forms and numbers beyond the last. -/
theorem leads_four : ∀ k < 5,
    ¬UInt8.ofNat (k + 0xF0) < 0x80 ∧
      followers (UInt8.ofNat (k + 0xF0)) =
        some (3, if k = 0 then 0x90 else 0x80, if k = 4 then 0x8F else 0xBF) ∧
      leadValue 3 (UInt8.ofNat (k + 0xF0)) = k := by decide

theorem step_of_long {lead lo hi : UInt8} {n value number : Nat} {rest left : Bytes}
    (hlead : ¬lead < 0x80 ∧ followers lead = some (n, lo, hi) ∧ leadValue n lead = value)
    (hfollow : continuation n lo hi value rest = (0, number, left)) :
    step lead rest = (some (Char.ofNat number), left) := by
  obtain ⟨hlong, hfollowers, hvalue⟩ := hlead
  simp only [step, if_neg hlong, hfollowers, hvalue, hfollow]

/-- One step reads one character, whatever follows it. -/
theorem step_encodeChar (c : Char) (rest : Bytes) :
    ∃ lead tail, String.utf8EncodeChar c = lead :: tail ∧
      step lead (tail ++ rest) = (some c, rest) := by
  have hvalid : c.val.toNat < 0xD800 ∨ 0xDFFF < c.val.toNat ∧ c.val.toNat < 0x110000 := c.valid
  have hchar : Char.ofNat c.val.toNat = c := Char.ofNat_toNat c
  unfold String.utf8EncodeChar
  generalize c.val.toNat = v at hvalid hchar
  dsimp only
  split
  · have hshort : UInt8.ofNat v < 0x80 := by
      rw [UInt8.lt_iff_toNat_lt, UInt8.toNat_ofNat_of_lt' (by simp only [UInt8.size]; omega)]
      exact Nat.lt_succ_of_le ‹v ≤ 0x7F›
    have hbyte : (UInt8.ofNat v).toNat = v :=
      UInt8.toNat_ofNat_of_lt' (by simp only [UInt8.size]; omega)
    refine ⟨_, _, rfl, ?_⟩
    rw [List.nil_append, step, if_pos hshort, hbyte, hchar]
  · split
    · refine ⟨_, _, rfl, ?_⟩
      have hnumber : v / 64 % 32 * 64 + v % 64 = v := by omega
      rw [← hchar]
      refine step_of_long (leads_two _ (by omega) (by omega)) ?_
      rw [List.cons_append, continuation_ofNat (by omega) (by simp) (by simp; omega), hnumber]
      rfl
    · split
      · refine ⟨_, _, rfl, ?_⟩
        have hnumber : (v / 4096 % 16 * 64 + v / 64 % 64) * 64 + v % 64 = v := by omega
        rw [← hchar]
        refine step_of_long (leads_three _ (by omega)) ?_
        rw [List.cons_append, List.cons_append,
          continuation_ofNat (by omega) (by split <;> simp; omega) (by split <;> simp <;> omega),
          continuation_ofNat (by omega) (by simp) (by simp; omega), hnumber]
        rfl
      · refine ⟨_, _, rfl, ?_⟩
        have hnumber : ((v / 262144 % 8 * 64 + v / 4096 % 64) * 64 + v / 64 % 64) * 64 + v % 64
            = v := by omega
        rw [← hchar]
        refine step_of_long (leads_four _ (by omega)) ?_
        rw [List.cons_append, List.cons_append, List.cons_append,
          continuation_ofNat (by omega) (by split <;> simp; omega) (by split <;> simp <;> omega),
          continuation_ofNat (by omega) (by simp) (by simp; omega),
          continuation_ofNat (by omega) (by simp) (by simp; omega), hnumber]
        rfl

theorem scan_encode (s : Text) : scan (encode s) = s.map some := by
  induction s with
  | nil => exact scan.eq_1
  | cons c rest ih =>
      obtain ⟨lead, tail, hchar, hstep⟩ := step_encodeChar c (encode rest)
      have hencode : encode (c :: rest) = lead :: (tail ++ encode rest) := by
        rw [encode, List.flatMap_cons, hchar]
        rfl
      rw [hencode, scan, hstep, ih]
      rfl

/-- Reading gives the text back. -/
theorem decodeLossy_encode (s : Text) : decodeLossy (encode s) = s := by
  calc
    decodeLossy (encode s) = (s.map some).map (·.getD replacement) := by
      rw [decodeLossy, scan_encode]
    _ = s := by
      rw [List.map_map]
      exact List.map_id s

theorem decode?_encode (s : Text) : decode? (encode s) = some s := by
  rw [decode?, scan_encode]
  induction s with
  | nil => rfl
  | cons c rest ih =>
      rw [List.map_cons, List.mapM_cons, ih]
      rfl

end ServiceCall.Utf8
