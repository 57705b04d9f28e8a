import ServiceCall.Text.Basic

/-!
# Decimal numerals

Whole numbers as decimal text, plain, signed and padded with zeros, and the reading of an unsigned
machine word.
-/

namespace ServiceCall.Numeral

/-- The decimal digits of a number, without leading zeros. -/
def ofNat (n : Nat) : Text := Nat.toDigits 10 n

def ofInt : Int → Text
  | .ofNat n => ofNat n
  | .negSucc n => '-' :: ofNat (n + 1)

/-- The digits filled up with zeros on the left. -/
def padded (width n : Nat) : Text :=
  List.replicate (width - (ofNat n).length) '0' ++ ofNat n

/-- The number that a run of digits stands for. -/
def digitsValue (digits : Text) : Nat := Nat.ofDigitChars 10 digits 0

/-- One more than the largest number of a 64-bit word. -/
def wordLimit : Nat := 0x10000000000000000

/-- Reads digits, after one plus sign at most, as a number that fits a 64-bit word. -/
def word? (s : Text) : Option Nat :=
  let digits := match s with
    | '+' :: rest => rest
    | _ => s
  if digits ≠ [] ∧ digits.all Char.isDigit ∧ digitsValue digits < wordLimit then
    some (digitsValue digits)
  else none

theorem ofNat_all_isDigit (n : Nat) : (ofNat n).all Char.isDigit = true := by
  rw [List.all_eq_true]
  exact fun c hc => Nat.isDigit_of_mem_toDigits (by decide) (by decide) hc

theorem digitsValue_ofNat (n : Nat) : digitsValue (ofNat n) = n :=
  Nat.ofDigitChars_toDigits (by decide) (by decide)

end ServiceCall.Numeral
