import ServiceCall.Text.Basic

/-!
# Shortest decimals

The decimal with the fewest digits that reads back as a given binary number.  The reals that round
to `mantissa · 2 ^ exponent` form an interval around it; for one, two, … seventeen digits the two
grid points next to the value are tried in exact arithmetic, and the first grid with a point in the
interval wins.  Of two such points the nearer is taken, and the even one if both are equally near.
-/

namespace ServiceCall.Decimal

/-- A positive number as a mantissa times a power of two, with whether it is the lowest mantissa of
its binade, so that the number below is only half as far away. -/
structure Binary where
  mantissa : Nat
  exponent : Int
  lowest : Bool

/-- A positive number as digits times a power of ten. -/
structure Scaled where
  digits : Nat
  exponent : Int
  deriving DecidableEq, Repr

/-- An interval around a value, all three over one common denominator. -/
structure Interval where
  low : Nat
  value : Nat
  high : Nat
  denominator : Nat
  closed : Bool

/-- The numbers that round to `b`.  The ends belong to it when the mantissa is even. -/
def Binary.interval (b : Binary) : Interval :=
  let up := Nat.pow 2 (b.exponent - 2).toNat
  { low := (4 * b.mantissa - if b.lowest then 1 else 2) * up
    value := 4 * b.mantissa * up
    high := (4 * b.mantissa + 2) * up
    denominator := Nat.pow 2 (2 - b.exponent).toNat
    closed := b.mantissa % 2 == 0 }

/-- The interval counted in units of `10 ^ p`. -/
def Interval.inUnits (i : Interval) (p : Int) : Interval :=
  let up := Nat.pow 10 (-p).toNat
  { i with
    low := i.low * up, value := i.value * up, high := i.high * up
    denominator := i.denominator * Nat.pow 10 p.toNat }

def Interval.contains (i : Interval) (n : Nat) : Bool :=
  if i.closed then i.low ≤ n * i.denominator && n * i.denominator ≤ i.high
  else i.low < n * i.denominator && n * i.denominator < i.high

/-- Of the two whole numbers next to the value, the one that lies in the interval; of both the
nearer, and the even one at equal distance. -/
def Interval.nearest? (i : Interval) : Option Nat :=
  let below := i.value / i.denominator
  let above := below + 1
  match i.contains below, i.contains above with
  | true, true =>
    let down := i.value - below * i.denominator
    let up := above * i.denominator - i.value
    if down < up then some below
    else if up < down then some above
    else if below % 2 = 0 then some below else some above
  | true, false => some below
  | false, true => some above
  | false, false => none

/-- The least `n ≤ fuel` with `den ≤ num · 10 ^ n`, or `fuel`. -/
def leadingPlaces : Nat → Nat → Nat → Nat
  | 0, _, _ => 0
  | fuel + 1, num, den => if den ≤ num then 0 else leadingPlaces fuel (num * 10) den + 1

/-- The number of digits before the point, or minus the number of zeros right after it. -/
def Interval.magnitude (i : Interval) : Int :=
  if i.denominator ≤ i.value then (Nat.toDigits 10 (i.value / i.denominator)).length
  else 1 - (leadingPlaces 400 i.value i.denominator : Int)

/-- Tries the grids with `n`, `n + 1`, … digits. -/
def tryDigits (i : Interval) (magnitude : Int) : Nat → Nat → Scaled
  | 0, n => ⟨(i.inUnits (magnitude - n)).value / (i.inUnits (magnitude - n)).denominator,
      magnitude - n⟩
  | fuel + 1, n =>
    match (i.inUnits (magnitude - n)).nearest? with
    | some digits => ⟨digits, magnitude - n⟩
    | none => tryDigits i magnitude fuel (n + 1)

/-- Moves zeros at the end of the digits into the exponent. -/
def stripZeros : Nat → Scaled → Scaled
  | 0, s => s
  | fuel + 1, s =>
    if s.digits ≠ 0 ∧ s.digits % 10 = 0 then stripZeros fuel ⟨s.digits / 10, s.exponent + 1⟩
    else s

def shortest (b : Binary) : Scaled :=
  let i := b.interval
  stripZeros 20 (tryDigits i i.magnitude 17 1)

/-- The parts of a finite nonzero double, without its sign. -/
def Binary.ofBits (bits : UInt64) : Binary :=
  let fraction : Nat := bits.toNat % 0x10000000000000
  let biased : Nat := bits.toNat / 0x10000000000000 % 0x800
  if biased = 0 then ⟨fraction, -1074, false⟩
  else ⟨0x10000000000000 + fraction, (biased : Int) - 1075, fraction == 0 && decide (1 < biased)⟩

end ServiceCall.Decimal
