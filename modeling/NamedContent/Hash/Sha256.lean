import NamedContent.Bytes

/-!
# SHA-256

The digest of FIPS 180-4: `pad` fills a message to whole blocks, `schedule` stretches a block to
64 words, `compress` folds them into the state, and `digest` runs over all blocks.

A `Digester` takes a message in pieces, whatever the digest; a `Hasher` is the state of the one for
SHA-256.

* `Hasher.digest_updates`: the digest of pieces is the digest of their concatenation.
-/

namespace NamedContent

namespace Sha256

/-! ## Words -/

/-- Rotation to the right. -/
def rotate (x : UInt32) (n : UInt32) : UInt32 := (x >>> n) ||| (x <<< (32 - n))

/-- The function of the schedule that is applied to the word 15 places back. -/
def smallSigma0 (x : UInt32) : UInt32 := rotate x 7 ^^^ rotate x 18 ^^^ (x >>> 3)

/-- The function of the schedule that is applied to the word 2 places back. -/
def smallSigma1 (x : UInt32) : UInt32 := rotate x 17 ^^^ rotate x 19 ^^^ (x >>> 10)

/-- The function of a round that is applied to the first word of the state. -/
def bigSigma0 (x : UInt32) : UInt32 := rotate x 2 ^^^ rotate x 13 ^^^ rotate x 22

/-- The function of a round that is applied to the fifth word of the state. -/
def bigSigma1 (x : UInt32) : UInt32 := rotate x 6 ^^^ rotate x 11 ^^^ rotate x 25

/-- The constants of the 64 rounds. -/
def roundConstants : List UInt32 :=
  [0x428a2f98, 0x71374491, 0xb5c0fbcf, 0xe9b5dba5, 0x3956c25b, 0x59f111f1, 0x923f82a4, 0xab1c5ed5,
   0xd807aa98, 0x12835b01, 0x243185be, 0x550c7dc3, 0x72be5d74, 0x80deb1fe, 0x9bdc06a7, 0xc19bf174,
   0xe49b69c1, 0xefbe4786, 0x0fc19dc6, 0x240ca1cc, 0x2de92c6f, 0x4a7484aa, 0x5cb0a9dc, 0x76f988da,
   0x983e5152, 0xa831c66d, 0xb00327c8, 0xbf597fc7, 0xc6e00bf3, 0xd5a79147, 0x06ca6351, 0x14292967,
   0x27b70a85, 0x2e1b2138, 0x4d2c6dfc, 0x53380d13, 0x650a7354, 0x766a0abb, 0x81c2c92e, 0x92722c85,
   0xa2bfe8a1, 0xa81a664b, 0xc24b8b70, 0xc76c51a3, 0xd192e819, 0xd6990624, 0xf40e3585, 0x106aa070,
   0x19a4c116, 0x1e376c08, 0x2748774c, 0x34b0bcb5, 0x391c0cb3, 0x4ed8aa4a, 0x5b9cca4f, 0x682e6ff3,
   0x748f82ee, 0x78a5636f, 0x84c87814, 0x8cc70208, 0x90befffa, 0xa4506ceb, 0xbef9a3f7, 0xc67178f2]

/-! ## Blocks -/

/-- Consecutive pieces of `n` bytes; the last one may be shorter. -/
def chunks (n : Nat) (b : Bytes) : List Bytes :=
  if b = [] ∨ n = 0 then [] else b.take n :: chunks n (b.drop n)
termination_by b.length
decreasing_by
  rename_i h
  simp only [not_or] at h
  have := List.length_pos_iff.mpr h.1
  simp only [List.length_drop]
  omega

/-- A message, a one bit, zeros up to eight bytes short of a whole block, and its length in bits. -/
def pad (message : Bytes) : Bytes :=
  message ++ 0x80 :: List.replicate ((119 - message.length % 64) % 64) 0 ++
    Bytes.ofNat 8 (message.length * 8)

/-- `count` more words in front of the words so far, the latest of which comes first. -/
def extend : (count : Nat) → List UInt32 → List UInt32
  | 0, words => words
  | count + 1, words =>
    let back (n : Nat) : UInt32 := words.getD (n - 1) 0
    extend count ((smallSigma1 (back 2) + back 7 + smallSigma0 (back 15) + back 16) :: words)

/-- The 64 words of a block. -/
def schedule (block : Bytes) : List UInt32 :=
  let words := (chunks 4 block).map fun word => UInt32.ofNat (Bytes.toNat word)
  (extend 48 words.reverse).reverse

/-! ## Rounds -/

/-- The state between blocks. -/
structure State where
  a : UInt32 := 0x6a09e667
  b : UInt32 := 0xbb67ae85
  c : UInt32 := 0x3c6ef372
  d : UInt32 := 0xa54ff53a
  e : UInt32 := 0x510e527f
  f : UInt32 := 0x9b05688c
  g : UInt32 := 0x1f83d9ab
  h : UInt32 := 0x5be0cd19

/-- One round, with the sum of its constant and its word. -/
def round (s : State) (input : UInt32) : State :=
  let choice := (s.e &&& s.f) ^^^ (~~~s.e &&& s.g)
  let majority := (s.a &&& s.b) ^^^ (s.a &&& s.c) ^^^ (s.b &&& s.c)
  let first := s.h + bigSigma1 s.e + choice + input
  let second := bigSigma0 s.a + majority
  { a := first + second, b := s.a, c := s.b, d := s.c
    e := s.d + first, f := s.e, g := s.f, h := s.g }

/-- The state after a block. -/
def compress (s : State) (block : Bytes) : State :=
  let t := (List.zipWith (· + ·) roundConstants (schedule block)).foldl round s
  { a := s.a + t.a, b := s.b + t.b, c := s.c + t.c, d := s.d + t.d
    e := s.e + t.e, f := s.f + t.f, g := s.g + t.g, h := s.h + t.h }

/-- The words of a state as bytes. -/
def State.toBytes (s : State) : Bytes :=
  [s.a, s.b, s.c, s.d, s.e, s.f, s.g, s.h].flatMap fun word => Bytes.ofNat 4 word.toNat

/-- The digest of a message. -/
def digest (message : Bytes) : Bytes :=
  ((chunks 64 (pad message)).foldl compress {}).toBytes

-- The digests of the empty message and of the message abc.

example : digest [] =
    [0xe3, 0xb0, 0xc4, 0x42, 0x98, 0xfc, 0x1c, 0x14, 0x9a, 0xfb, 0xf4, 0xc8, 0x99, 0x6f, 0xb9, 0x24,
      0x27, 0xae, 0x41, 0xe4, 0x64, 0x9b, 0x93, 0x4c, 0xa4, 0x95, 0x99, 0x1b, 0x78, 0x52, 0xb8,
      0x55] := by
  decide +kernel

example : digest [0x61, 0x62, 0x63] =
    [0xba, 0x78, 0x16, 0xbf, 0x8f, 0x01, 0xcf, 0xea, 0x41, 0x41, 0x40, 0xde, 0x5d, 0xae, 0x22, 0x23,
      0xb0, 0x03, 0x61, 0xa3, 0x96, 0x17, 0x7a, 0x9c, 0xb4, 0x10, 0xff, 0x61, 0xf2, 0x00, 0x15,
      0xad] := by
  decide +kernel

end Sha256

/-! ## Hashing in pieces -/

/-- What takes a digest in pieces: a state is started anew, takes in pieces, and tells the digest of
what it took in since then. -/
structure Digester (σ : Type) where
  restart : σ → σ
  update : σ → Bytes → σ
  digest : σ → Bytes

/-- The digest of a byte string in one piece, from a given state. -/
def Digester.oneShot {σ : Type} (d : Digester σ) (state : σ) (b : Bytes) : Bytes :=
  d.digest (d.update (d.restart state) b)

/-- A digest under way: what has been taken in since the start. -/
structure Hasher where
  pending : Bytes := []
deriving DecidableEq

namespace Hasher

/-- The state before any input. -/
def init : Hasher := {}

/-- Forgets what was taken in. -/
def restart (_ : Hasher) : Hasher := init

/-- Takes in a piece. -/
def update (hasher : Hasher) (piece : Bytes) : Hasher := ⟨hasher.pending ++ piece⟩

/-- The digest of everything taken in. -/
def digest (hasher : Hasher) : Bytes := Sha256.digest hasher.pending

/-- Taking in pieces in order is taking in their concatenation. -/
theorem pending_updates (hasher : Hasher) (pieces : List Bytes) :
    (pieces.foldl update hasher).pending = hasher.pending ++ pieces.flatten := by
  induction pieces generalizing hasher with
  | nil => simp
  | cons piece pieces ih => simp [ih, update]

theorem digest_updates (pieces : List Bytes) :
    (pieces.foldl update init).digest = Sha256.digest pieces.flatten := by
  simp [digest, pending_updates, init]

/-- SHA-256 in pieces. -/
def digester : Digester Hasher := ⟨restart, update, digest⟩

end Hasher

end NamedContent
