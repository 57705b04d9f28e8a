import ServiceCall.Text.Basic

/-!
# Punycode

Labels of any characters written with letters, digits and hyphens.  The basic characters come first,
as they are.  Then come the others in the order of their code points, each as the number of steps
from the one before: a step goes to the next place in the text, and from the last place to the next
code point.  The numbers are written in base 36 with a threshold for each digit, which adapts to the
size of the numbers seen, so that a number ends with the first digit below its threshold.
-/

namespace ServiceCall.Punycode

def firstCode : Nat := 128

def firstBias : Nat := 72

/-- The largest number of steps. -/
def largest : Nat := 0xFFFFFFFF

/-- The most characters of a label that is written, and of one that is read. -/
def longestWritten : Nat := 1000
def longestRead : Nat := 2000

def isBasic (c : Char) : Bool := c.toNat < firstCode

/-- Letters stand for 0 to 25 and digits for the rest. -/
def digit (n : Nat) : Char := if n < 26 then Char.ofNat (97 + n) else Char.ofNat (22 + n)

def digitValue? (c : Char) : Option Nat :=
  if c.isLower then some (c.toNat - 97)
  else if c.isUpper then some (c.toNat - 65)
  else if c.isDigit then some (c.toNat - 22)
  else none

/-- The threshold of the digit with index `k`, where indices go up in steps of 36. -/
def threshold (bias k : Nat) : Nat := min 26 (max 1 (k - bias))

theorem threshold_pos (bias k : Nat) : 1 ≤ threshold bias k := by simp only [threshold]; omega

theorem threshold_le (bias k : Nat) : threshold bias k ≤ 26 := by simp only [threshold]; omega

/-- Brings a number down to that of one digit; `k` goes up with every digit left out. -/
def scaleDown (delta k : Nat) : Nat :=
  if 455 < delta then scaleDown (delta / 35) (k + 36) else k + 36 * delta / (delta + 38)
termination_by delta
decreasing_by omega

/-- The bias after a number, when the text has `length` characters so far. -/
def adapt (delta length : Nat) (first : Bool) : Nat :=
  let delta := if first then delta / 700 else delta / 2
  scaleDown (delta + delta / length) 0

/-! ## Writing -/

def writeNumber (bias k n : Nat) : Text :=
  let t := threshold bias k
  if n < t then [digit n]
  else digit (t + (n - t) % (36 - t)) :: writeNumber bias (k + 36) ((n - t) / (36 - t))
termination_by n
decreasing_by
  have low := threshold_pos bias k
  exact Nat.lt_of_le_of_lt (Nat.div_le_self ..) (by omega)

/-- What is written so far, how many characters that covers, the steps since the last of them, and
the bias. -/
structure Writing where
  text : Text
  covered : Nat
  delta : Nat
  bias : Nat

/-- Passes by one character of the label, on the way to the places of the code point `code`. -/
def Writing.pass (basics code : Nat) (w : Writing) (c : Char) : Writing :=
  if c.toNat < code then { w with delta := w.delta + 1 }
  else if c.toNat = code then
    { text := w.text ++ writeNumber w.bias 36 w.delta
      covered := w.covered + 1
      delta := 0
      bias := adapt w.delta (w.covered + 1) (w.covered = basics) }
  else w

/-- Writes the characters with the given code points, in order; `code` is the next one to come. -/
def writeCodes (label : Text) (basics : Nat) : List Nat → Nat → Writing → Writing
  | [], _, w => w
  | next :: rest, code, w =>
    let w := { w with delta := w.delta + (next - code) * (w.covered + 1) }
    let w := label.foldl (Writing.pass basics next) w
    writeCodes label basics rest (next + 1) { w with delta := w.delta + 1 }

/-- A label in basic characters, unless it is too long. -/
def encode? (label : Text) : Option Text :=
  if longestWritten < label.length then none
  else
    let basics := label.filter isBasic
    let start := if basics.isEmpty then [] else basics ++ ['-']
    let others := (label.filter fun c => !isBasic c).map Char.toNat
    let codes := (others.mergeSort fun a b => decide (a ≤ b)).eraseDups
    some (writeCodes label basics.length codes firstCode ⟨start, basics.length, 0, firstBias⟩).text

/-! ## Reading -/

/-- Reads a number whose digit with index `k` counts `weight`, onto the number `n`. -/
def readNumber? (bias : Nat) : Text → Nat → Nat → Nat → Option (Nat × Text)
  | [], _, _, _ => none
  | c :: rest, k, weight, n => do
    let d ← digitValue? c
    let t := threshold bias k
    if largest < n + d * weight then none
    else if d < t then some (n + d * weight, rest)
    else if largest < weight * (36 - t) then none
    else readNumber? bias rest (k + 36) (weight * (36 - t)) (n + d * weight)

theorem length_of_readNumber? {bias : Nat} {s rest : Text} {k weight n value : Nat}
    (h : readNumber? bias s k weight n = some (value, rest)) : rest.length < s.length := by
  induction s generalizing k weight n with
  | nil => simp [readNumber?] at h
  | cons c tail ih =>
    simp only [readNumber?, Option.bind_eq_bind, Option.bind_eq_some_iff] at h
    obtain ⟨d, -, h⟩ := h
    split at h
    · simp at h
    · split at h
      · simp only [Option.some.injEq, Prod.mk.injEq] at h
        simp [h.2]
      · split at h
        · simp at h
        · have := ih h
          simp only [List.length_cons]
          omega

/-- Reads the other characters into a label.  `place` and `code` say from where the steps are
counted; only the first number is counted from place zero. -/
def readCodes? (s : Text) (place code bias : Nat) (label : Text) : Option Text :=
  if s.isEmpty then some label
  else
    match _h : readNumber? bias s 36 1 place with
    | none => none
    | some (reached, rest) =>
      let length := label.length + 1
      let code := code + reached / length
      if code.isValidChar then
        let next := reached % length
        readCodes? rest (next + 1) code (adapt (reached - place) length (place = 0))
          (label.take next ++ Char.ofNat code :: label.drop next)
      else none
termination_by s.length
decreasing_by exact length_of_readNumber? _h

/-- The label that is written as `s`.  A label of basic characters only is never written so. -/
def decode? (s : Text) : Option Text :=
  if longestRead < s.length ∨ s.isEmpty ∨ s.getLast? = some '-' then none
  else
    let written := (s.reverse.takeWhile (· ≠ '-')).reverse
    let basics := s.take (s.length - written.length - 1)
    if !basics.all isBasic then none
    else if basics.isEmpty then readCodes? s 0 firstCode firstBias []
    else readCodes? written 0 firstCode firstBias basics

end ServiceCall.Punycode
