import ServiceCall.Decimal.Shortest
import ServiceCall.Json.Value
import ServiceCall.Text.Numeral

/-!
# Writing JSON

The compact form, without spaces.  Strings escape the quote, the backslash and the control
characters, with the short escapes where there are any.  Doubles have the fewest digits that read
back, with a point in the text from 1e-5 up to 1e16 and an exponent beyond.
-/

namespace ServiceCall.Json

/-- How a character stands in a string. -/
def escapeChar (c : Char) : Text :=
  match c with
  | '"' => ['\\', '"']
  | '\\' => ['\\', '\\']
  | '\x08' => ['\\', 'b']
  | '\x0c' => ['\\', 'f']
  | '\n' => ['\\', 'n']
  | '\r' => ['\\', 'r']
  | '\t' => ['\\', 't']
  | _ =>
    if c.toNat < 0x20 then
      "\\u00".toList ++ [Nat.digitChar (c.toNat / 16), Nat.digitChar (c.toNat % 16)]
    else [c]

def writeString (s : Text) : Text := '"' :: s.flatMap escapeChar ++ ['"']

/-- The text of digits times a power of ten. -/
def writeScaled (s : Decimal.Scaled) : Text :=
  let digits := Numeral.ofNat s.digits
  let point := (digits.length : Int) + s.exponent
  if 0 ≤ s.exponent ∧ point ≤ 16 then
    digits ++ List.replicate s.exponent.toNat '0' ++ ['.', '0']
  else if 0 < point ∧ point ≤ 16 then
    digits.take point.toNat ++ '.' :: digits.drop point.toNat
  else if -5 < point ∧ point ≤ 0 then
    '0' :: '.' :: List.replicate point.natAbs '0' ++ digits
  else
    let mantissa := digits.take 1 ++ if 1 < digits.length then '.' :: digits.drop 1 else []
    let power := point - 1
    mantissa ++ 'e' :: (if power < 0 then Numeral.ofInt power else '+' :: Numeral.ofInt power)

/-- The text of a double; one without a finite value is written as null. -/
def writeFloat (f : Float) : Text :=
  let bits := f.toBits
  let sign : Text := if bits ≥ 0x8000000000000000 then ['-'] else []
  if f.isNaN || f.isInf then "null".toList
  else if f == 0 then sign ++ "0.0".toList
  else sign ++ writeScaled (Decimal.shortest (Decimal.Binary.ofBits bits))

mutual

def Value.write : Value → Text
  | .null => "null".toList
  | .bool true => "true".toList
  | .bool false => "false".toList
  | .int n => Numeral.ofInt n
  | .float f => writeFloat f
  | .string s => writeString s
  | .array [] => ['[', ']']
  | .array (item :: items) => '[' :: item.write ++ writeItems items
  | .object [] => ['\x7b', '\x7d']
  | .object ((name, value) :: members) =>
    '\x7b' :: writeString name ++ ':' :: value.write ++ writeMembers members

/-- The items after the first, and the closing bracket. -/
def writeItems : List Value → Text
  | [] => [']']
  | item :: items => ',' :: item.write ++ writeItems items

/-- The members after the first, and the closing brace. -/
def writeMembers : List (Text × Value) → Text
  | [] => ['\x7d']
  | (name, value) :: members =>
    ',' :: writeString name ++ ':' :: value.write ++ writeMembers members

end

end ServiceCall.Json
