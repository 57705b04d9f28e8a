import ServiceCall.Http.Visible

/-!
# Invocation identifiers

The sixteen bytes that name one call across all its attempts, written as five groups of hexadecimal
digits.  Reading also takes the digits without dashes, in braces, and after `urn:uuid:`.
-/

namespace ServiceCall

structure InvocationId where
  bytes : Bytes
  size : bytes.length = 16
  deriving DecidableEq

namespace InvocationId

/-- The identifier of zeros. -/
def nil : InvocationId := ⟨List.replicate 16 0, by simp⟩

instance : Inhabited InvocationId := ⟨nil⟩

/-- The identifier whose bytes are a number, the highest first. -/
def ofNat (n : Nat) : InvocationId :=
  ⟨(List.range 16).map fun i => UInt8.ofNat (n / Nat.pow 256 (15 - i)), by simp⟩

/-- Pieces of the given lengths from the front of a text. -/
def groups (lengths : List Nat) (s : Text) : List Text :=
  match lengths with
  | [] => []
  | n :: rest => s.take n :: groups rest (s.drop n)

def groupLengths : List Nat := [8, 4, 4, 4, 12]

def text (id : InvocationId) : Text :=
  Text.join ['-'] (groups groupLengths (Hex.encode id.bytes))

/-- The identifier of 32 digits. -/
def ofDigits? (s : Text) : Option InvocationId := do
  let bytes ← Hex.decode? s
  if h : bytes.length = 16 then some ⟨bytes, h⟩ else none

def ofText? (s : Text) : Option InvocationId :=
  let inner :=
    if "urn:uuid:".toList.isPrefixOf s then s.drop 9
    else if s.head? = some '\x7b' ∧ s.getLast? = some '\x7d' then (s.drop 1).dropLast
    else s
  let pieces := Text.splitAll '-' inner
  if pieces.map List.length = groupLengths then ofDigits? pieces.flatten
  else if s.length = 32 then ofDigits? s
  else none

private theorem isVisible_groups (lengths : List Nat) (s : Text) (h : Text.isVisible s = true) :
    Text.isVisible (Text.join ['-'] (groups lengths s)) = true := by
  have cut {t : Text} (ht : Text.isVisible t = true) (n : Nat) :
      Text.isVisible (t.take n) = true ∧ Text.isVisible (t.drop n) = true := by
    have := ht
    rw [← List.take_append_drop n t, isVisible_append, Bool.and_eq_true] at this
    exact this
  induction lengths generalizing s with
  | nil => rfl
  | cons n rest ih =>
    cases rest with
    | nil => simpa [groups, Text.join] using (cut h n).1
    | cons m rest =>
      have tail := ih (s.drop n) (cut h n).2
      simp only [groups, Text.join, isVisible_append] at tail ⊢
      rw [(cut h n).1, tail]
      rfl

theorem isVisible_text (id : InvocationId) : Text.isVisible id.text = true :=
  isVisible_groups groupLengths _ (isVisible_hex id.bytes)

def value (id : InvocationId) : HeaderValue := .ofVisible id.text id.isVisible_text

end InvocationId

end ServiceCall
