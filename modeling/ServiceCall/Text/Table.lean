import ServiceCall.Text.Numeral

/-!
# Tables of numbers

Properties of characters that follow no rule are kept as tables: lines of decimal numbers between
single spaces, or of rows of such numbers between commas.  A set of characters is kept as the
lengths of runs of code points, from zero on, that by turns are outside of the set and inside.
-/

namespace ServiceCall.Table

/-- The numbers between single spaces. -/
def row (text : Text) : List Nat := (Text.splitAll ' ' text).map Numeral.digitsValue

def numbers (lines : List String) : List Nat := lines.flatMap fun line => row line.toList

def rows (lines : List String) : List (List Nat) :=
  lines.flatMap fun line => (Text.splitAll ',' line.toList).map row

/-- Whether place `n` lies in an odd one of consecutive runs; `odd` tells what the first run is. -/
def isOdd : List Nat → Nat → Bool → Bool
  | [], _, odd => odd
  | run :: runs, n, odd => if n < run then odd else isOdd runs (n - run) (!odd)

/-- Whether a character is inside of a set given by runs. -/
def inRuns (runs : List Nat) (c : Char) : Bool := isOdd runs c.toNat false

end ServiceCall.Table
