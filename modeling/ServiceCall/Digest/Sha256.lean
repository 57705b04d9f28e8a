import ServiceCall.Digest.Block

/-!
# SHA-256

The secure hash with eight chaining words of 32 bits.  A block supplies the first sixteen words of a
schedule; each round uses the oldest word of a window of sixteen and appends the next one.
-/

namespace ServiceCall.Sha256

/-- The leading bits of the fractional parts of the cube roots of the first 64 primes. -/
def roundConstants : List UInt32 := [
  0x428a2f98, 0x71374491, 0xb5c0fbcf, 0xe9b5dba5, 0x3956c25b, 0x59f111f1,
  0x923f82a4, 0xab1c5ed5, 0xd807aa98, 0x12835b01, 0x243185be, 0x550c7dc3,
  0x72be5d74, 0x80deb1fe, 0x9bdc06a7, 0xc19bf174, 0xe49b69c1, 0xefbe4786,
  0x0fc19dc6, 0x240ca1cc, 0x2de92c6f, 0x4a7484aa, 0x5cb0a9dc, 0x76f988da,
  0x983e5152, 0xa831c66d, 0xb00327c8, 0xbf597fc7, 0xc6e00bf3, 0xd5a79147,
  0x06ca6351, 0x14292967, 0x27b70a85, 0x2e1b2138, 0x4d2c6dfc, 0x53380d13,
  0x650a7354, 0x766a0abb, 0x81c2c92e, 0x92722c85, 0xa2bfe8a1, 0xa81a664b,
  0xc24b8b70, 0xc76c51a3, 0xd192e819, 0xd6990624, 0xf40e3585, 0x106aa070,
  0x19a4c116, 0x1e376c08, 0x2748774c, 0x34b0bcb5, 0x391c0cb3, 0x4ed8aa4a,
  0x5b9cca4f, 0x682e6ff3, 0x748f82ee, 0x78a5636f, 0x84c87814, 0x8cc70208,
  0x90befffa, 0xa4506ceb, 0xbef9a3f7, 0xc67178f2]

/-- The eight chaining words. -/
structure Chain where
  a : UInt32
  b : UInt32
  c : UInt32
  d : UInt32
  e : UInt32
  f : UInt32
  g : UInt32
  h : UInt32

/-- The leading bits of the fractional parts of the square roots of the first eight primes. -/
def initial : Chain := ⟨
  0x6a09e667, 0xbb67ae85, 0x3c6ef372, 0xa54ff53a,
  0x510e527f, 0x9b05688c, 0x1f83d9ab, 0x5be0cd19⟩

def rotateRight (x : UInt32) (n : UInt32) : UInt32 := (x >>> n) ||| (x <<< (32 - n))

/-- The word that follows a window of sixteen schedule words. -/
def nextWord (window : List UInt32) : UInt32 :=
  let far := window.getD 1 0
  let near := window.getD 14 0
  let mixFar := rotateRight far 7 ^^^ rotateRight far 18 ^^^ (far >>> 3)
  let mixNear := rotateRight near 17 ^^^ rotateRight near 19 ^^^ (near >>> 10)
  window.getD 0 0 + mixFar + window.getD 9 0 + mixNear

def round (state : Chain × List UInt32) (constant : UInt32) : Chain × List UInt32 :=
  let (v, window) := state
  let mixE := rotateRight v.e 6 ^^^ rotateRight v.e 11 ^^^ rotateRight v.e 25
  let choice := (v.e &&& v.f) ^^^ (~~~v.e &&& v.g)
  let first := v.h + mixE + choice + constant + window.getD 0 0
  let mixA := rotateRight v.a 2 ^^^ rotateRight v.a 13 ^^^ rotateRight v.a 22
  let majority := (v.a &&& v.b) ^^^ (v.a &&& v.c) ^^^ (v.b &&& v.c)
  let second := mixA + majority
  (⟨first + second, v.a, v.b, v.c, v.d + first, v.e, v.f, v.g⟩,
    window.drop 1 ++ [nextWord window])

def compress (chain : Chain) (block : Bytes) : Chain :=
  let v := (roundConstants.foldl round (chain, Block.words Block.value block)).1
  ⟨chain.a + v.a, chain.b + v.b, chain.c + v.c, chain.d + v.d,
    chain.e + v.e, chain.f + v.f, chain.g + v.g, chain.h + v.h⟩

def Chain.bytes (v : Chain) : Bytes :=
  [v.a, v.b, v.c, v.d, v.e, v.f, v.g, v.h].flatMap fun word => Block.bigEndian 4 word.toNat

/-- The 32 bytes of the hash. -/
def hash (message : Bytes) : Bytes :=
  (Block.foldBlocks compress initial (Block.padded Block.bigEndian message)).bytes

end ServiceCall.Sha256
