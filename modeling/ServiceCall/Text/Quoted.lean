import ServiceCall.Text.Unprintable

/-!
# Quoted text

Text in double quotes, as messages and descriptions show it.  The usual short escapes stand for
tab, line ends, NUL, the backslash and the quote; any other unprintable character is written by
its number in braces.
-/

namespace ServiceCall.Quoted

/-- The number of a character in small hexadecimal digits, between braces. -/
def byNumber (c : Char) : Text :=
  "\\u\x7b".toList ++ Nat.toDigits 16 c.toNat ++ "\x7d".toList

def escape (c : Char) : Text :=
  match c with
  | '\t' => ['\\', 't']
  | '\n' => ['\\', 'n']
  | '\r' => ['\\', 'r']
  | '\x00' => ['\\', '0']
  | '"' => ['\\', '"']
  | '\\' => ['\\', '\\']
  | _ => if isUnprintable c then byNumber c else [c]

def quote (s : Text) : Text := '"' :: s.flatMap escape ++ ['"']

end ServiceCall.Quoted
