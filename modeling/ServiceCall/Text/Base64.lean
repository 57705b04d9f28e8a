import ServiceCall.Text.Basic

/-!
# Base64 text

Three bytes become four letters of the standard alphabet; a short last group is filled up with
the equals sign.
-/

namespace ServiceCall.Base64

def alphabet : Text :=
  "ABCDEFGHIJKLMNOPQRSTUVWXYZabcdefghijklmnopqrstuvwxyz0123456789+/".toList

/-- The letter of the lowest six bits. -/
def letter (n : Nat) : Char := alphabet.getD (n % 64) 'A'

def encode : Bytes → Text
  | [] => []
  | [a] =>
    let n := a.toNat * 16
    [letter (n / 64), letter n, '=', '=']
  | [a, b] =>
    let n := (a.toNat * 256 + b.toNat) * 4
    [letter (n / 4096), letter (n / 64), letter n, '=']
  | a :: b :: c :: rest =>
    let n := (a.toNat * 256 + b.toNat) * 256 + c.toNat
    letter (n / 262144) :: letter (n / 4096) :: letter (n / 64) :: letter n :: encode rest

end ServiceCall.Base64
