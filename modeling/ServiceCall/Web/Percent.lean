import ServiceCall.Text.Hex
import ServiceCall.Text.Utf8

/-!
# Percent encoding

A byte written as a percent sign and two hexadecimal digits.  Writing uses capital letters.  Reading
takes both cases and leaves a percent sign alone that has no two digits after it.
-/

namespace ServiceCall.Percent

/-- The byte as a percent sign and two capital digits. -/
def encodeByte (b : UInt8) : Text :=
  ['%', (Hex.digit (b.toNat / 16)).toUpper, (Hex.digit (b.toNat % 16)).toUpper]

/-- Encodes the bytes of the characters that satisfy the test. -/
def encodeIf (p : Char → Bool) (s : Text) : Text :=
  s.flatMap fun c => if p c then (Utf8.encode [c]).flatMap encodeByte else [c]

/-- The byte of two digits. -/
def byte? (high low : UInt8) : Option UInt8 := do
  let high ← Hex.value? (Char.ofNat high.toNat)
  let low ← Hex.value? (Char.ofNat low.toNat)
  pure (UInt8.ofNat (high * 16 + low))

/-- The percent sign. -/
def sign : UInt8 := 0x25

def decode : Bytes → Bytes
  | b :: high :: low :: rest =>
    if b = sign then
      match byte? high low with
      | some decoded => decoded :: decode rest
      | none => b :: decode (high :: low :: rest)
    else b :: decode (high :: low :: rest)
  | bytes => bytes

end ServiceCall.Percent
