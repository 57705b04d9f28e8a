import ServiceCall.Text.Basic

/-!
# Blocks of a message

Both hash functions of this library cut a padded message into blocks of 64 bytes and fold a
compression step over them.  The padding is one bit, zeros, and the length in bits as eight bytes;
only the byte order differs between the two.
-/

namespace ServiceCall.Block

/-- The number of zero bytes between the end mark and the length. -/
def fillLength (n : Nat) : Nat := (119 - n % 64) % 64

/-- The `count` lowest bytes of a number, the lowest first. -/
def littleEndian : Nat → Nat → Bytes
  | 0, _ => []
  | count + 1, n => UInt8.ofNat n :: littleEndian count (n / 256)

def bigEndian (count n : Nat) : Bytes := (littleEndian count n).reverse

/-- A message with its end mark, its fill and its length in bits. -/
def padded (order : Nat → Nat → Bytes) (message : Bytes) : Bytes :=
  message ++ 0x80 :: List.replicate (fillLength message.length) 0
    ++ order 8 (message.length * 8)

/-- The number that bytes stand for, the highest first. -/
def value (bytes : Bytes) : Nat := bytes.foldl (fun n b => n * 256 + b.toNat) 0

/-- Bytes as words of four bytes each, read in the given order. -/
def words (read : Bytes → Nat) : Bytes → List UInt32
  | a :: b :: c :: d :: rest => UInt32.ofNat (read [a, b, c, d]) :: words read rest
  | _ => []

/-- Folds a compression step over the blocks of 64 bytes. -/
def foldBlocks {α : Type} (compress : α → Bytes → α) (chain : α) (bytes : Bytes) : α :=
  match bytes with
  | [] => chain
  | b :: rest => foldBlocks compress (compress chain ((b :: rest).take 64)) ((b :: rest).drop 64)
termination_by bytes.length
decreasing_by
  simp only [List.length_drop, List.length_cons]
  omega

end ServiceCall.Block
