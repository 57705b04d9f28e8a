import ServiceCall.Text.Basic

/-!
# UTF-8

Text as bytes and back.  One walk over the bytes yields, step by step, either a character or a
broken beginning of one.  A strict reading accepts only walks without broken steps; a lossy reading
puts one replacement character in the place of each.  A broken step takes the longest run of bytes
that begins some well-formed character, and at least one byte.
-/

namespace ServiceCall.Utf8

/-- The bytes of a text. -/
def encode (s : Text) : Bytes := s.flatMap String.utf8EncodeChar

/-- For the first byte of a longer character: how many bytes follow, and the range of the first of
them.  It excludes overlong forms, surrogates and values past the last code point. -/
def followers (lead : UInt8) : Option (Nat × UInt8 × UInt8) :=
  if 0xC2 ≤ lead && lead ≤ 0xDF then some (1, 0x80, 0xBF)
  else if lead == 0xE0 then some (2, 0xA0, 0xBF)
  else if lead == 0xED then some (2, 0x80, 0x9F)
  else if 0xE1 ≤ lead && lead ≤ 0xEF then some (2, 0x80, 0xBF)
  else if lead == 0xF0 then some (3, 0x90, 0xBF)
  else if 0xF1 ≤ lead && lead ≤ 0xF3 then some (3, 0x80, 0xBF)
  else if lead == 0xF4 then some (3, 0x80, 0x8F)
  else none

/-- Takes up to `n` bytes from the front, the first from `lo` to `hi` and the others from
0x80 to 0xBF, adding the six low bits of each to `value`.  Gives the number still missing. -/
def continuation : Nat → UInt8 → UInt8 → Nat → Bytes → Nat × Nat × Bytes
  | 0, _, _, value, rest => (0, value, rest)
  | n + 1, _, _, value, [] => (n + 1, value, [])
  | n + 1, lo, hi, value, b :: rest =>
    if lo ≤ b && b ≤ hi then
      continuation n 0x80 0xBF (value * 64 + b.toNat % 64) rest
    else (n + 1, value, b :: rest)

/-- The value bits of the first byte of a character with `n` further bytes. -/
def leadValue (n : Nat) (lead : UInt8) : Nat := lead.toNat % Nat.pow 2 (6 - n)

/-- One step of the walk: a character, or `none` for a broken beginning, and the bytes left. -/
def step (lead : UInt8) (rest : Bytes) : Option Char × Bytes :=
  if lead < 0x80 then (some (Char.ofNat lead.toNat), rest)
  else
    match followers lead with
    | none => (none, rest)
    | some (n, lo, hi) =>
      match continuation n lo hi (leadValue n lead) rest with
      | (0, value, left) => (some (Char.ofNat value), left)
      | (_ + 1, _, left) => (none, left)

theorem continuation_length (n : Nat) (lo hi : UInt8) (value : Nat) (rest : Bytes) :
    (continuation n lo hi value rest).2.2.length ≤ rest.length := by
  induction n generalizing lo hi value rest with
  | zero => simp [continuation]
  | succ n ih =>
    cases rest with
    | nil => simp [continuation]
    | cons b rest =>
      simp only [continuation]
      split
      · exact Nat.le_succ_of_le (ih ..)
      · simp

theorem step_length (lead : UInt8) (rest : Bytes) :
    (step lead rest).2.length ≤ rest.length := by
  simp only [step]
  split
  · simp
  · split
    · simp
    · rename_i n lo hi _
      have h := continuation_length n lo hi (leadValue n lead) rest
      split <;> rename_i heq <;> rw [heq] at h <;> exact h

/-- The whole walk: the characters and, as `none`, the broken beginnings between them. -/
def scan : Bytes → List (Option Char)
  | [] => []
  | lead :: rest => (step lead rest).1 :: scan (step lead rest).2
termination_by bytes => bytes.length
decreasing_by
  have := step_length lead rest
  simp only [List.length_cons]
  omega

/-- Stands for a broken beginning in a lossy reading. -/
def replacement : Char := Char.ofNat 0xFFFD

/-- The text of any bytes, with one replacement character for each broken beginning. -/
def decodeLossy (bytes : Bytes) : Text := (scan bytes).map (·.getD replacement)

/-- The text of well-formed bytes. -/
def decode? (bytes : Bytes) : Option Text := (scan bytes).mapM id

end ServiceCall.Utf8
