import MarketFeed.Digest.Sha256

/-!
# Keyed digests

The SHA-256 digest of a message under a secret key, as a receiver who holds the key computes it too.
-/

namespace MarketFeed.Hmac

/-- The key as one block of 64 bytes: a longer key is digested first, a shorter one filled up. -/
def blockKey (key : List UInt8) : List UInt8 :=
  let key := if 64 < key.length then Sha256.digest key else key
  key ++ List.replicate (64 - key.length) 0

def sha256 (key message : List UInt8) : List UInt8 :=
  let block := blockKey key
  let inner := Sha256.digest (block.map (· ^^^ 0x36) ++ message)
  Sha256.digest (block.map (· ^^^ 0x5C) ++ inner)

end MarketFeed.Hmac
