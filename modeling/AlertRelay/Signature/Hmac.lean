import AlertRelay.Signature.Sha256

/-!
# Keyed digests

The HMAC construction over SHA-256: the message is digested behind the key under an inner mask, and
that digest behind the key under an outer mask.

## Main definitions

* `Hmac.blockKey` — a key brought to the length of a block
* `Hmac.mac` — the keyed digest
-/

namespace AlertRelay.Hmac

/-- The key brought to 64 bytes: a longer one is digested, and zeros fill it up. -/
def blockKey (key : List UInt8) : List UInt8 :=
  let short := if 64 < key.length then Sha256.digest key else key
  short ++ List.replicate (64 - short.length) 0

/-- The keyed digest of a message. -/
def mac (key message : List UInt8) : List UInt8 :=
  let k := blockKey key
  let inner := Sha256.digest (k.map (· ^^^ 0x36) ++ message)
  Sha256.digest (k.map (· ^^^ 0x5c) ++ inner)

theorem length_mac (key message : List UInt8) : (mac key message).length = 32 :=
  Sha256.length_digest _

/-- The published digest of a well-known sentence, which begins with `f7bc83f4`. -/
example :
    mac "key".toUTF8.toList "The quick brown fox jumps over the lazy dog".toUTF8.toList =
      [0xf7, 0xbc, 0x83, 0xf4, 0x30, 0x53, 0x84, 0x24,
        0xb1, 0x32, 0x98, 0xe6, 0xaa, 0x6f, 0xb1, 0x43,
        0xef, 0x4d, 0x59, 0xa1, 0x49, 0x46, 0x17, 0x59,
        0x97, 0x47, 0x9d, 0xbc, 0x2d, 0x1a, 0x3c, 0xd8] := by
  decide +kernel

end AlertRelay.Hmac
