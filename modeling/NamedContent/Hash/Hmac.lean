import NamedContent.Hash.Sha256

/-!
# HMAC with SHA-256

The keyed digest of RFC 2104: two passes of SHA-256, each behind the key combined with a constant.
-/

namespace NamedContent.Hmac

/-- The key filled with zeros to a block; a longer key is replaced by its digest. -/
def blockKey (key : Bytes) : Bytes :=
  let short := if 64 < key.length then Sha256.digest key else key
  short ++ List.replicate (64 - short.length) 0

/-- The keyed digest of a message. -/
def mac (key message : Bytes) : Bytes :=
  let pass (constant : UInt8) (input : Bytes) : Bytes :=
    Sha256.digest ((blockKey key).map (· ^^^ constant) ++ input)
  pass 0x5c (pass 0x36 message)

end NamedContent.Hmac
