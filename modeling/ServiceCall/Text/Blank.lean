import ServiceCall.Text.Basic

/-!
# Blank characters

The characters with the Unicode property White_Space, and the two ways text is freed of them:
trimming both ends, and taking the words between runs of blanks.
-/

namespace ServiceCall

/-- The twenty-five characters with the property White_Space. -/
def isBlank (c : Char) : Bool :=
  let n := c.toNat
  (0x09 ≤ n && n ≤ 0x0D) || n == 0x20 || n == 0x85 || n == 0xA0 || n == 0x1680
    || (0x2000 ≤ n && n ≤ 0x200A) || n == 0x2028 || n == 0x2029 || n == 0x202F
    || n == 0x205F || n == 0x3000

namespace Text

/-- The text without the blanks at its two ends. -/
def trim (s : Text) : Text := trimEnd isBlank (trimStart isBlank s)

/-- The words of a text: the pieces between runs of blanks, none of them empty. -/
def words : Text → List Text
  | [] => []
  | c :: rest =>
    if isBlank c then words rest
    else
      match rest with
      | [] => [[c]]
      | d :: _ =>
        if isBlank d then [c] :: words rest
        else
          match words rest with
          | [] => [[c]]
          | word :: others => (c :: word) :: others

/-- Whether a text has no character other than blanks. -/
def isBlankText (s : Text) : Bool := s.all isBlank

end Text

end ServiceCall
