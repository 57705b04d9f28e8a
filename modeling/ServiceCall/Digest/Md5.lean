import ServiceCall.Digest.Block

/-!
# MD5

The hash with four chaining words of 32 bits, bytes and words lowest first.  The 64 rounds come in
four groups of sixteen; each group has its own mixing function, its own way through the sixteen
words of the block, and four rotation amounts in turn.
-/

namespace ServiceCall.Md5

/-- The whole parts of 2 to the 32nd times the absolute sine of 1, 2, … 64. -/
def sines : List UInt32 := [
  0xd76aa478, 0xe8c7b756, 0x242070db, 0xc1bdceee, 0xf57c0faf, 0x4787c62a,
  0xa8304613, 0xfd469501, 0x698098d8, 0x8b44f7af, 0xffff5bb1, 0x895cd7be,
  0x6b901122, 0xfd987193, 0xa679438e, 0x49b40821, 0xf61e2562, 0xc040b340,
  0x265e5a51, 0xe9b6c7aa, 0xd62f105d, 0x02441453, 0xd8a1e681, 0xe7d3fbc8,
  0x21e1cde6, 0xc33707d6, 0xf4d50d87, 0x455a14ed, 0xa9e3e905, 0xfcefa3f8,
  0x676f02d9, 0x8d2a4c8a, 0xfffa3942, 0x8771f681, 0x6d9d6122, 0xfde5380c,
  0xa4beea44, 0x4bdecfa9, 0xf6bb4b60, 0xbebfbc70, 0x289b7ec6, 0xeaa127fa,
  0xd4ef3085, 0x04881d05, 0xd9d4d039, 0xe6db99e5, 0x1fa27cf8, 0xc4ac5665,
  0xf4292244, 0x432aff97, 0xab9423a7, 0xfc93a039, 0x655b59c3, 0x8f0ccc92,
  0xffeff47d, 0x85845dd1, 0x6fa87e4f, 0xfe2ce6e0, 0xa3014314, 0x4e0811a1,
  0xf7537e82, 0xbd3af235, 0x2ad7d2bb, 0xeb86d391]

/-- The rotation amounts of each group, used in turn. -/
def rotations : List (List UInt32) :=
  [[7, 12, 17, 22], [5, 9, 14, 20], [4, 11, 16, 23], [6, 10, 15, 21]]

structure Chain where
  a : UInt32
  b : UInt32
  c : UInt32
  d : UInt32

def initial : Chain := ⟨0x67452301, 0xefcdab89, 0x98badcfe, 0x10325476⟩

def rotateLeft (x : UInt32) (n : UInt32) : UInt32 := (x <<< n) ||| (x >>> (32 - n))

/-- The mixing function of a group. -/
def mix (group : Nat) (b c d : UInt32) : UInt32 :=
  match group with
  | 0 => (b &&& c) ||| (~~~b &&& d)
  | 1 => (d &&& b) ||| (~~~d &&& c)
  | 2 => b ^^^ c ^^^ d
  | _ => c ^^^ (b ||| ~~~d)

/-- The place in the block of the word that round `i` uses. -/
def place (i : Nat) : Nat :=
  match i / 16 with
  | 0 => i
  | 1 => (5 * i + 1) % 16
  | 2 => (3 * i + 5) % 16
  | _ => 7 * i % 16

def round (block : List UInt32) (v : Chain) (step : UInt32 × Nat) : Chain :=
  let (sine, i) := step
  let sum := v.a + mix (i / 16) v.b v.c v.d + sine + block.getD (place i) 0
  let amount := (rotations.getD (i / 16) []).getD (i % 4) 0
  ⟨v.d, v.b + rotateLeft sum amount, v.b, v.c⟩

/-- The number that bytes stand for, the lowest first. -/
def lowFirst (bytes : Bytes) : Nat := Block.value bytes.reverse

def compress (chain : Chain) (block : Bytes) : Chain :=
  let words := Block.words lowFirst block
  let v := sines.zipIdx.foldl (round words) chain
  ⟨chain.a + v.a, chain.b + v.b, chain.c + v.c, chain.d + v.d⟩

def Chain.bytes (v : Chain) : Bytes :=
  [v.a, v.b, v.c, v.d].flatMap fun word => Block.littleEndian 4 word.toNat

/-- The 16 bytes of the hash. -/
def hash (message : Bytes) : Bytes :=
  (Block.foldBlocks compress initial (Block.padded Block.littleEndian message)).bytes

end ServiceCall.Md5
