import ServiceCall.Digest.Sha256

/-!
# Keyed hashes

The keyed hash over SHA-256: the key fills a block of 64 bytes, a longer key being hashed first,
and is mixed with one constant before the message and with another before the inner hash.
-/

namespace ServiceCall.Hmac

/-- A key as one whole block. -/
def blockKey (key : Bytes) : Bytes :=
  let short := if key.length > 64 then Sha256.hash key else key
  short ++ List.replicate (64 - short.length) 0

def sha256 (key message : Bytes) : Bytes :=
  let block := blockKey key
  let inner := Sha256.hash (block.map (· ^^^ 0x36) ++ message)
  Sha256.hash (block.map (· ^^^ 0x5c) ++ inner)

end ServiceCall.Hmac
