import ServiceCall.Text.Hex
import ServiceCall.Text.Numeral

/-!
# Internet addresses

The two forms of numeric addresses in a host.  The older form has up to four parts, each decimal,
octal or hexadecimal, the last of which fills all bytes that are left; it is written as four decimal
parts.  The newer form has eight words, one run of zero words may be left out, and the last two
words may be written in the older form; it is written with the longest run of zeros left out.
-/

namespace ServiceCall.Ip

/-- A part of an older address as a base and its digits. -/
def base (part : Text) : Nat × Text :=
  if "0x".toList.isPrefixOf (Text.lower part) then (16, part.drop 2)
  else if 2 ≤ part.length ∧ part.head? = some '0' then (8, part.drop 1)
  else (10, part)

/-- The number that a part stands for; no digits after a mark of a base stand for zero. -/
def part? (part : Text) : Option Nat :=
  if part.isEmpty then none
  else
    let (base, digits) := base part
    digits.foldlM (fun n c => (Hex.value? c).bind fun d =>
      if d < base then some (n * base + d) else none) 0

/-- The parts of an older address; one point at the end is ignored. -/
def parts (s : Text) : List Text :=
  let all := Text.splitAll '.' s
  if all.getLast? = some [] then all.dropLast else all

/-- Whether the last part of a name is a number, so that the name has to be an address. -/
def endsInNumber (s : Text) : Bool :=
  let all := Text.splitAll '.' s
  let last := if all.getLast? = some [] then all.dropLast.getLast? else all.getLast?
  match last with
  | none | some [] => false
  | some part => part.all Char.isDigit || (part? part).isSome

/-- The 32-bit number of an older address. -/
def older? (s : Text) : Option Nat := do
  let numbers ← (parts s).mapM part?
  let last ← numbers.getLast?
  let init := numbers.dropLast
  if numbers.length ≤ 4 ∧ last < Nat.pow 256 (4 - init.length) ∧ init.all (· < 256) then
    some (init.zipIdx.foldl (fun n (part, i) => n + part * Nat.pow 256 (3 - i)) last)
  else none

/-- Four decimal parts. -/
def olderText (n : Nat) : Text :=
  Text.join ['.'] ([3, 2, 1, 0].map fun i => Numeral.ofNat (n / Nat.pow 256 i % 256))

/-- A word of up to four hexadecimal digits. -/
def word? (s : Text) : Option Nat :=
  if s.isEmpty ∨ 4 < s.length then none
  else s.foldlM (fun n c => (Hex.value? c).map (n * 16 + ·)) 0

/-- One of the four parts at the end of a newer address: a number below 256 without leading zeros.
-/
def plainPart? (s : Text) : Option Nat :=
  if s.isEmpty ∨ ¬s.all Char.isDigit ∨ (s.head? = some '0' ∧ 1 < s.length)
      ∨ 256 ≤ Numeral.digitsValue s then none
  else some (Numeral.digitsValue s)

/-- The two words of four decimal parts. -/
def mixed? (s : Text) : Option (List Nat) := do
  match ← (Text.splitAll '.' s).mapM plainPart? with
  | [a, b, c, d] => some [a * 256 + b, c * 256 + d]
  | _ => none

/-- The words of pieces between colons; only the last piece may have points. -/
def words? : List Text → Option (List Nat)
  | [] => some []
  | [piece] => if piece.contains '.' then mixed? piece else (word? piece).map fun word => [word]
  | piece :: pieces => do
    let word ← word? piece
    let words ← words? pieces
    pure (word :: words)

/-- The words of a text without a gap; the empty text has none. -/
def side? (s : Text) : Option (List Nat) :=
  if s.isEmpty then some [] else words? (Text.splitAll ':' s)

/-- The text before the first two colons in a row, and the text after them. -/
def splitGap : Text → Option (Text × Text)
  | [] => none
  | c :: rest =>
    if c = ':' ∧ rest.head? = some ':' then some ([], rest.drop 1)
    else (splitGap rest).map fun (before, after) => (c :: before, after)

/-- The eight words of a newer address. -/
def newer? (s : Text) : Option (List Nat) :=
  match splitGap s with
  | none => (side? s).bind fun words => if words.length = 8 then some words else none
  | some (before, after) => do
    if before.contains '.' then none
    else
      let left ← side? before
      let right ← side? after
      let given := left.length + right.length
      if given ≤ 7 then some (left ++ List.replicate (8 - given) 0 ++ right) else none

/-- The number of zeros at the front. -/
def leadingZeros (words : List Nat) : Nat := (words.takeWhile (· == 0)).length

/-- The place and the length of the first of the longest runs of at least two zeros. -/
def longestGap (words : List Nat) : Option (Nat × Nat) :=
  let runs := (List.range words.length).map fun i => (i, leadingZeros (words.drop i))
  runs.foldl (fun best (i, n) =>
    if n < 2 then best
    else
      match best with
      | some (_, m) => if m < n then some (i, n) else best
      | none => some (i, n)) none

def wordsText (words : List Nat) : Text := Text.join [':'] (words.map (Nat.toDigits 16))

def newerText (words : List Nat) : Text :=
  match longestGap words with
  | none => wordsText words
  | some (i, n) => wordsText (words.take i) ++ "::".toList ++ wordsText (words.drop (i + n))

end ServiceCall.Ip
