import ServiceCall.Json.Value
import ServiceCall.Text.Numeral

/-!
# Reading JSON numbers

A number without point and exponent that fits a 64-bit word, signed or not, is a whole number; the
integer minus zero is a double.  Every other number is a double: its digits, as far as they fit an
unsigned word, times or over a power of ten, each of the two rounded once.  Digits of the whole part
that no longer fit count as tens, and digits of the fraction that no longer fit are dropped.  A
number beyond the doubles is refused; one too small for them is zero.
-/

namespace ServiceCall.Json.Number

/-- The largest exponent for which ten to its power is a double. -/
def largestPower : Nat := 308

def powerOfTen (n : Nat) : Float := Float.ofScientific 1 false n

/-- Divides by the largest power while the exponent is below it. -/
def scaleDown : Nat → Float → Nat → Float
  | 0, f, n => f / powerOfTen n
  | fuel + 1, f, n =>
    if n ≤ largestPower then f / powerOfTen n
    else if f == 0 then f
    else scaleDown fuel (f / powerOfTen largestPower) (n - largestPower)

/-- Digits times a power of ten, each rounded once. -/
def scale? (digits : Nat) (exponent : Int) : Option Float :=
  let f := (UInt64.ofNat digits).toFloat
  if exponent < 0 then some (scaleDown 4 f exponent.natAbs)
  else if exponent.toNat ≤ largestPower then
    let scaled := f * powerOfTen exponent.toNat
    if scaled.isInf then none else some scaled
  else if f == 0 then some f
  else none

/-- The digits read so far, the power of ten that they count, and whether a digit was dropped. -/
structure Significand where
  digits : Nat
  exponent : Int
  full : Bool

def Significand.start : Significand := ⟨0, 0, false⟩

/-- Takes a digit before the point. -/
def Significand.whole (s : Significand) (digit : Nat) : Significand :=
  if s.full then { s with exponent := s.exponent + 1 }
  else if s.digits * 10 + digit < Numeral.wordLimit then { s with digits := s.digits * 10 + digit }
  else { s with exponent := s.exponent + 1, full := true }

/-- Takes a digit after the point. -/
def Significand.fraction (s : Significand) (digit : Nat) : Significand :=
  if s.full then s
  else if s.digits * 10 + digit < Numeral.wordLimit then
    { s with digits := s.digits * 10 + digit, exponent := s.exponent - 1 }
  else { s with full := true }

def digitValue (c : Char) : Nat := c.toNat - 48

/-- The digits at the front of a text, and the rest. -/
def digitRun (s : Text) : Text × Text := (s.takeWhile Char.isDigit, s.dropWhile Char.isDigit)

/-- The exponents beyond which a number is zero or refused whatever its digits. -/
def exponentLimit : Nat := 0x80000000

/-- The bounds of a written exponent after it is joined with that of the digits. -/
def clampExponent (e : Int) : Int := max (-0x80000000) (min e 0x7FFFFFFF)

/-- The double that a significand and a written exponent stand for. -/
def float? (negative : Bool) (s : Significand) (up : Bool) (exponent : Nat) : Option Float :=
  let signed (f : Float) : Float := if negative then -f else f
  if exponentLimit ≤ exponent then
    if s.digits ≠ 0 ∧ up then none else some (signed 0)
  else
    let written : Int := if up then exponent else -exponent
    (scale? s.digits (clampExponent (s.exponent + written))).map signed

/-- Reads what follows the `e` of an exponent. -/
def exponent? (s : Text) : Option (Bool × Nat × Text) :=
  let (up, s) := match s with
    | '+' :: rest => (true, rest)
    | '-' :: rest => (false, rest)
    | _ => (true, s)
  let (digits, rest) := digitRun s
  if digits.isEmpty then none else some (up, Numeral.digitsValue digits, rest)

/-- Reads an optional exponent and makes the double. -/
def finish? (negative : Bool) (s : Significand) (rest : Text) : Option (Value × Text) :=
  match rest with
  | 'e' :: tail | 'E' :: tail => do
    let (up, exponent, rest) ← exponent? tail
    let f ← float? negative s up exponent
    pure (.float f, rest)
  | _ => (float? negative s true 0).map fun f => (.float f, rest)

/-- A whole number that fits a word; minus zero and all others become doubles. -/
def integer (negative : Bool) (digits : Nat) : Value :=
  if negative then
    if 0 < digits ∧ digits ≤ 0x8000000000000000 then .int (-(digits : Int))
    else .float (-(UInt64.ofNat digits).toFloat)
  else .int digits

/-- Reads a number from the front of a text. -/
def read? (s : Text) : Option (Value × Text) :=
  let (negative, s) := match s with
    | '-' :: rest => (true, rest)
    | _ => (false, s)
  let (digits, rest) := digitRun s
  if digits.isEmpty ∨ (digits.head? = some '0' ∧ 1 < digits.length) then none
  else
    let whole := digits.foldl (fun s c => s.whole (digitValue c)) Significand.start
    match rest with
    | '.' :: tail =>
      let (places, rest) := digitRun tail
      if places.isEmpty then none
      else
        let start := { whole with full := false }
        finish? negative (places.foldl (fun s c => s.fraction (digitValue c)) start) rest
    | 'e' :: _ | 'E' :: _ => finish? negative whole rest
    | _ =>
      if whole.full then finish? negative whole rest
      else some (integer negative whole.digits, rest)

end ServiceCall.Json.Number
