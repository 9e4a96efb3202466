import NamedContent.Bytes

/-!
# FNV-1a in 32 bits

The hash codes of segments and names. `step` takes in one byte; `hash` starts from the offset
basis; `mix` continues a code with the four bytes of another one.
-/

namespace NamedContent.Fnv

/-- The code of the empty byte string. -/
def basis : UInt32 := 0x811c9dc5

/-- The multiplier of each step. -/
def prime : UInt32 := 0x01000193

/-- A code continued by one byte. -/
def step (code : UInt32) (x : UInt8) : UInt32 := (code ^^^ x.toUInt32) * prime

/-- The code of a byte string. -/
def hash (b : Bytes) : UInt32 := b.foldl step basis

/-- A code continued by the four bytes of `next`. The order of the two matters. -/
def mix (code next : UInt32) : UInt32 := (Bytes.ofNat 4 next.toNat).foldl step code

end NamedContent.Fnv
