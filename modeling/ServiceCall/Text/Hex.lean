import ServiceCall.Text.Basic

/-!
# Hexadecimal text

Two digits for each byte, the higher half first.  Writing uses small letters; reading takes both
cases.
-/

namespace ServiceCall.Hex

/-- The digit of a number below sixteen. -/
def digit (n : Nat) : Char := Nat.digitChar n

/-- The value of a digit of either case. -/
def value? (c : Char) : Option Nat :=
  if '0' ≤ c ∧ c ≤ '9' then some (c.toNat - 48)
  else if 'a' ≤ c ∧ c ≤ 'f' then some (c.toNat - 87)
  else if 'A' ≤ c ∧ c ≤ 'F' then some (c.toNat - 55)
  else none

def encodeByte (b : UInt8) : Text := [digit (b.toNat / 16), digit (b.toNat % 16)]

def encode (bytes : Bytes) : Text := bytes.flatMap encodeByte

/-- The bytes of a text made of digit pairs. -/
def decode? : Text → Option Bytes
  | [] => some []
  | [_] => none
  | high :: low :: rest =>
    match value? high, value? low, decode? rest with
    | some h, some l, some bytes => some (UInt8.ofNat (h * 16 + l) :: bytes)
    | _, _, _ => none

theorem value?_digit : ∀ n < 16, value? (digit n) = some n := by decide

theorem decode?_encode (bytes : Bytes) : decode? (encode bytes) = some bytes := by
  induction bytes with
  | nil => rfl
  | cons b rest ih =>
    have hb : b.toNat < 256 := b.toNat_lt
    have h := value?_digit (b.toNat / 16) (by omega)
    have l := value?_digit (b.toNat % 16) (by omega)
    have join : b.toNat / 16 * 16 + b.toNat % 16 = b.toNat := by omega
    simp only [encode, List.flatMap_cons, encodeByte, List.cons_append, List.nil_append, decode?,
      h, l]
    rw [show List.flatMap encodeByte rest = encode rest from rfl, ih]
    simp [join]

end ServiceCall.Hex
